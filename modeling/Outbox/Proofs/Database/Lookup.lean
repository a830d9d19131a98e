import Outbox.Proofs.Database.Column

/-!
# The column is looked up once

Calls of one store after the other.  What is known of the column is the type that the first lookup found
which found one; so it can be read off what was said so far, and nothing else has to be remembered.

* `Step` — what a call comes to, and what is said during it, by what is known before;
* `step_turn` — every call is such a step;
* `Conversion`, `readsBy_statement` — the text by which a call reads, by the type that was found;
* `looked_up_once` — any calls in turn.
-/

namespace Outbox.Database

open Outbox.Time

namespace Store

/-! ### Calls -/

/-- A call of the store. -/
inductive Call
  | statuses (ids : List EntityId)
  | entities (ids : List EntityId)
  | updatedBetween (start stop : Timestamp)

/-- What a call finds. -/
inductive Found
  | statuses (found : Table EntityId PrimaryStatus)
  | entities (found : List Entity)
  | identifiers (found : List EntityId)

namespace Call

/-- Makes a call. -/
def perform (table : TableName) : Call → Action Connection Found
  | .statuses ids => do pure (.statuses (← Store.statuses table ids))
  | .entities ids => do pure (.entities (← Store.entities table ids))
  | .updatedBetween start stop => do
    pure (.identifiers (← Store.updatedBetween table start stop))

/-- What is found by a call that names nothing to be found. -/
def unasked? : Call → Option Found
  | .statuses [] => some (.statuses [])
  | .entities [] => some (.entities [])
  | _ => none

/-- The statement by which a call reads a table whose column is stored in some way. -/
def statement (table : TableName) (column : UpdatedColumn) : Call → Statement
  | .statuses ids => .statuses table column ids
  | .entities ids => .entities table column ids
  | .updatedBetween start stop => .updatedBetween table column start stop

/-- What a call makes of the rows. -/
def read (rows : List Row) : Call → Except Error Found
  | .statuses _ => ((rows.mapM statusOfRow).map Table.ofList).map .statuses
  | .entities _ => (rows.mapM entityOfRow).map .entities
  | .updatedBetween .. => (rows.mapM idOfRow).map .identifiers

variable {call : Call} {table : TableName}

theorem statement_isSimple (column : UpdatedColumn) :
    (call.statement table column).isSimple = false := by
  cases call with
  | statuses => rfl
  | entities => rfl
  | updatedBetween => rfl

theorem exec_perform_of_unasked {found : Found} (h : call.unasked? = some found) (c : Connection) :
    (call.perform table).exec c = (.ok found, c) := by
  cases call with
  | statuses ids =>
      cases ids with
      | nil => exact congrArg (fun found => (Except.ok found, c)) (Option.some.inj h)
      | cons => cases h
  | entities ids =>
      cases ids with
      | nil => exact congrArg (fun found => (Except.ok found, c)) (Option.some.inj h)
      | cons => cases h
  | updatedBetween => cases h

/-- A call that names something finds out how the column is stored, and then reads. -/
theorem perform_eq_asking (h : call.unasked? = none) :
    call.perform table = asking table (fun column => call.statement table column) call.read := by
  cases call with
  | statuses ids =>
      cases ids with
      | nil => cases h
      | cons i ids =>
          show Store.statuses table (i :: ids) >>= _ = _
          simp only [Store.statuses, List.isEmpty_cons, Bool.false_eq_true, if_false, bind_assoc,
            readRows, Action.ofView_bind_pure]
          rfl
  | entities ids =>
      cases ids with
      | nil => cases h
      | cons i ids =>
          show Store.entities table (i :: ids) >>= _ = _
          simp only [Store.entities, List.isEmpty_cons, Bool.false_eq_true, if_false, bind_assoc,
            readRows, Action.ofView_bind_pure]
          rfl
  | updatedBetween start stop =>
      show Store.updatedBetween table start stop >>= _ = _
      simp only [Store.updatedBetween, bind_assoc, readRows, Action.ofView_bind_pure]
      rfl

end Call

/-! ### Turns -/

/-- A call, what it came to, and what was said during it. -/
structure Turn where
  call : Call
  outcome : Except Error Found
  said : List Exchange

/-- The turn of a call that is made over a connection. -/
def Turn.of (table : TableName) (call : Call) (c : Connection) : Turn :=
  let made := (call.perform table).exec c
  ⟨call, made.1, c.script.since made.2.script⟩

/-- Makes calls in turn, whatever comes of each: the turns, and the connection at the end. -/
def turns (table : TableName) : List Call → Connection → List Turn × Connection
  | [], c => ([], c)
  | call :: calls, c =>
    let rest := turns table calls ((call.perform table).exec c).2
    (.of table call c :: rest.1, rest.2)

/-- A call, between what is known of the column before it and after it.  While nothing is known, a
lookup comes first, and only if it finds a type the call itself is said. -/
inductive Step (table : TableName) : Option UpdatedColumn → Turn → Option UpdatedColumn → Prop
  | unasked {known : Option UpdatedColumn} {call : Call} {found : Found}
      (h : call.unasked? = some found) : Step table known ⟨call, .ok found, []⟩ known
  | known {call : Call} (h : call.unasked? = none) (column : UpdatedColumn)
      (answer : Except Error (List Row)) :
      Step table (some column) ⟨call, answer >>= call.read, [⟨call.statement table column, answer⟩]⟩
        (some column)
  | refused {call : Call} (h : call.unasked? = none) {answer : Except Error (List Row)} {e : Error}
      (hanswer : Refusal table answer e) :
      Step table none ⟨call, .error e, [⟨.columnType table, answer⟩]⟩ none
  | found {call : Call} (h : call.unasked? = none) {rows : List Row} {column : UpdatedColumn}
      (hrows : columnOf? rows = some column) (answer : Except Error (List Row)) :
      Step table none ⟨call, answer >>= call.read,
        [⟨.columnType table, .ok rows⟩, ⟨call.statement table column, answer⟩]⟩ (some column)

/-! ### One call -/

/-- A call that is not made because the column is unknown. -/
theorem exec_asking_of_error {α : Type} {table : TableName} {c c' : Connection} {e : Error}
    (h : (updatedColumn table).exec c = (.error e, c')) (statement : UpdatedColumn → Statement)
    (read : List Row → Except Error α) : (asking table statement read).exec c = (.error e, c') :=
  Action.exec_bind_error h _

/-- A call that is made once the column is known. -/
theorem exec_asking_of_ok {α : Type} {table : TableName} {c c' : Connection}
    {column : UpdatedColumn} (h : (updatedColumn table).exec c = (.ok column, c'))
    (statement : UpdatedColumn → Statement) (read : List Row → Except Error α) :
    (asking table statement read).exec c
      = (((Connection.query (statement column)).exec c').1 >>= read,
        ((Connection.query (statement column)).exec c').2) := by
  rw [asking, Action.exec_bind_ok h, Action.exec_bind]
  rcases (Connection.query (statement column)).exec c' with ⟨e | rows, c''⟩
  · rfl
  · rfl

/-- **Every call is a step.** -/
theorem step_turn (table : TableName) (call : Call) (c : Connection) :
    let made := (call.perform table).exec c
    Talks c.script (Turn.of table call c).said made.2.script ∧
      Step table c.column (Turn.of table call c) made.2.column := by
  -- it is enough to find what was said, as that is what the scripts show
  suffices h : ∃ xs, Talks c.script xs ((call.perform table).exec c).2.script ∧
      Step table c.column ⟨call, ((call.perform table).exec c).1, xs⟩
        ((call.perform table).exec c).2.column by
    obtain ⟨xs, htalks, hstep⟩ := h
    have hsaid : (Turn.of table call c).said = xs := htalks.since_eq
    refine ⟨hsaid ▸ htalks, ?_⟩
    rw [Turn.of, htalks.since_eq]
    exact hstep
  cases hasked : call.unasked? with
  | some found =>
      rw [call.exec_perform_of_unasked hasked]
      exact ⟨[], .nil _, .unasked hasked⟩
  | none =>
      rw [call.perform_eq_asking hasked]
      cases hknown : c.column with
      | some column =>
          rw [exec_asking_of_ok (exec_updatedColumn_of_known hknown)]
          refine ⟨_, talks_connectionQuery (call.statement_isSimple column) c, ?_⟩
          have hkept : ((Connection.query (call.statement table column)).exec c).2.column = c.column :=
            rfl
          rw [hkept, hknown]
          exact .known hasked column _
      | none =>
          have hlookup := @talks_connectionQuery (.columnType table) rfl c
          rcases hasking : (Connection.query (.columnType table)).exec c with ⟨answer, c'⟩
          rw [hasking] at hlookup
          have hstill : c'.column = none := by
            rw [← hknown, ← show ((Connection.query (.columnType table)).exec c).2.column = c.column
              from rfl, hasking]
          rcases exec_detectColumn hasking with
            ⟨e, hrefused, hdetect⟩ | ⟨rows, column, rfl, hrows, hdetect⟩
          · have hupdated : (updatedColumn table).exec c = (.error e, c') := by
              rw [exec_updatedColumn_of_unknown hknown, Action.exec_bind_error hdetect]
            rw [exec_asking_of_error hupdated, hstill]
            exact ⟨_, hlookup, .refused hasked hrefused⟩
          · have hupdated : (updatedColumn table).exec c
                = (.ok column, { c' with column := some column }) := by
              rw [exec_updatedColumn_of_unknown hknown, Action.exec_bind_ok hdetect]
              rfl
            rw [exec_asking_of_ok hupdated]
            exact ⟨_, hlookup.append (talks_connectionQuery (call.statement_isSimple column) _),
              .found hasked hrows _⟩

/-! ### What is known -/

/-- The type that is found by an exchange, if it is a lookup that finds one. -/
def column? (x : Exchange) : Option UpdatedColumn :=
  match x.statement, x.answer with
  | .columnType _, .ok rows => columnOf? rows
  | _, _ => none

/-- The type that is found first. -/
def found? (xs : List Exchange) : Option UpdatedColumn := xs.findSome? column?

/-- A read is no lookup. -/
theorem column?_of_read {table : TableName} {column : UpdatedColumn} {call : Call} {x : Exchange}
    (h : x.statement = call.statement table column) : column? x = none := by
  rw [column?, h]
  cases call with
  | statuses => rfl
  | entities => rfl
  | updatedBetween => rfl

/-- What is refused finds nothing. -/
theorem column?_of_refusal {table : TableName} {answer : Except Error (List Row)} {e : Error}
    (h : Refusal table answer e) : column? ⟨.columnType table, answer⟩ = none := by
  cases answer with
  | error => rfl
  | ok rows => exact h.columnOf?_eq

namespace Step

variable {table : TableName} {known known' : Option UpdatedColumn} {t : Turn}

/-- What is known after a call was known before, or is found during it. -/
theorem known_eq (h : Step table known t known') : known' = known.or (found? t.said) := by
  cases h with
  | unasked => exact Option.or_none.symm
  | known => rfl
  | refused _ hanswer =>
      rw [found?, List.findSome?_cons, column?_of_refusal hanswer]
      rfl
  | found _ hrows answer =>
      have hsome : column? ⟨.columnType table, .ok _⟩ = some _ := hrows
      rw [found?, List.findSome?_cons, hsome]
      rfl

/-- With the type known, a call only reads, and by that type. -/
theorem of_known {column : UpdatedColumn} (h : Step table (some column) t known') :
    known' = some column ∧ ∀ x ∈ t.said, x.statement = t.call.statement table column := by
  cases h with
  | unasked => exact ⟨rfl, List.forall_mem_nil _⟩
  | known => exact ⟨rfl, List.forall_mem_singleton.mpr rfl⟩

end Step

/-! ### Calls in turn -/

/-- Calls one after the other, between what is known before them and after them. -/
inductive Steps (table : TableName) :
    Option UpdatedColumn → List Turn → Option UpdatedColumn → Prop
  | nil (known : Option UpdatedColumn) : Steps table known [] known
  | cons {known known' known'' : Option UpdatedColumn} {t : Turn} {ts : List Turn}
      (h : Step table known t known') (hrest : Steps table known' ts known'') :
      Steps table known (t :: ts) known''

/-- **Any calls in turn** are steps, and what is said during them is all that is said. -/
theorem steps_turns (table : TableName) (calls : List Call) (c : Connection) :
    let run := turns table calls c
    run.1.map Turn.call = calls ∧ Talks c.script (run.1.flatMap Turn.said) run.2.script ∧
      Steps table c.column run.1 run.2.column := by
  induction calls generalizing c with
  | nil => exact ⟨rfl, .nil _, .nil _⟩
  | cons call calls ih =>
      obtain ⟨htalks, hstep⟩ := step_turn table call c
      obtain ⟨hcalls, htalks', hsteps⟩ := ih ((call.perform table).exec c).2
      exact ⟨congrArg (call :: ·) hcalls, htalks.append htalks', .cons hstep hsteps⟩

namespace Steps

variable {table : TableName} {known known' : Option UpdatedColumn} {ts : List Turn}

/-- Each of the calls, between what was found before it and what is found by then. -/
theorem step (h : Steps table known ts known') {before after : List Turn} {t : Turn}
    (hts : ts = before ++ t :: after) :
    Step table (known.or (found? (before.flatMap Turn.said))) t
      (known.or (found? ((before ++ [t]).flatMap Turn.said))) := by
  induction before generalizing known ts with
  | nil =>
      subst hts
      cases h with
      | cons hstep _ =>
          rw [List.nil_append, List.flatMap_singleton, ← hstep.known_eq]
          exact Option.or_none.symm ▸ hstep
  | cons t' before ih =>
      subst hts
      cases h with
      | cons hstep hrest =>
          have hlater := ih hrest rfl
          rw [hstep.known_eq, Option.or_assoc, Option.or_assoc, found?, found?, found?,
            ← List.findSome?_append, ← List.findSome?_append] at hlater
          exact hlater

/-- With the type known, calls only read. -/
theorem reads_of_known {column : UpdatedColumn} (h : Steps table (some column) ts known') :
    ∀ x ∈ ts.flatMap Turn.said, ∃ t ∈ ts, x.statement = t.call.statement table column := by
  generalize hknown : some column = known at h
  induction h with
  | nil => exact List.forall_mem_nil _
  | @cons _ _ _ t ts hstep _ ih =>
      subst hknown
      obtain ⟨hkept, hsaid⟩ := hstep.of_known
      rw [List.flatMap_cons, List.forall_mem_append]
      refine ⟨fun x hx => ⟨t, List.mem_cons_self, hsaid x hx⟩, fun x hx => ?_⟩
      obtain ⟨t', ht', hx⟩ := ih hkept.symm x hx
      exact ⟨t', List.mem_cons_of_mem t ht', hx⟩

/-- After the first lookup that finds a type, calls only read, and by that type. -/
theorem settled (h : Steps table none ts known') {xs ys : List Exchange} {lookup : Exchange}
    {column : UpdatedColumn} (hsaid : ts.flatMap Turn.said = xs ++ lookup :: ys)
    (hfound : column? lookup = some column) :
    ∀ y ∈ ys, ∃ t ∈ ts, y.statement = t.call.statement table column := by
  generalize hknown : none = known at h
  induction h generalizing xs with
  | nil => simp at hsaid
  | @cons _ known₁ _ t ts hstep hrest ih =>
      subst hknown
      -- what the calls that are left say is said by one of all
      have hlater {xs' : List Exchange} (hsaid' : ts.flatMap Turn.said = xs' ++ lookup :: ys)
          (hunknown : none = known₁) :
          ∀ y ∈ ys, ∃ t' ∈ t :: ts, y.statement = t'.call.statement table column := by
        intro y hy
        obtain ⟨t', ht', hy⟩ := ih hsaid' hunknown y hy
        exact ⟨t', List.mem_cons_of_mem t ht', hy⟩
      rw [List.flatMap_cons] at hsaid
      cases hstep with
      | unasked => exact hlater hsaid rfl
      | refused _ hanswer =>
          cases xs with
          | nil =>
              obtain ⟨rfl, -⟩ := List.cons.inj hsaid
              rw [column?_of_refusal hanswer] at hfound
              cases hfound
          | cons x xs => exact hlater (List.cons.inj hsaid).2 rfl
      | @found call _ rows column' hrows answer =>
          have hreads := hrest.reads_of_known
          cases xs with
          | nil =>
              obtain ⟨rfl, rfl⟩ := List.cons.inj hsaid
              obtain rfl : column' = column := Option.some.inj (hrows.symm.trans hfound)
              refine List.forall_mem_cons.mpr ⟨⟨_, List.mem_cons_self, rfl⟩, fun y hy => ?_⟩
              obtain ⟨t', ht', hy⟩ := hreads y hy
              exact ⟨t', List.mem_cons_of_mem _ ht', hy⟩
          | cons x xs =>
              -- nothing is found a second time, as nothing is looked up
              have hsaid' : ⟨call.statement table column', answer⟩ :: ts.flatMap Turn.said
                  = xs ++ lookup :: ys := (List.cons.inj hsaid).2
              have hmem : lookup ∈ ⟨call.statement table column', answer⟩ :: ts.flatMap Turn.said :=
                hsaid' ▸ List.mem_append_right _ List.mem_cons_self
              have hnone : column? lookup = none := by
                rcases List.mem_cons.mp hmem with rfl | hmem
                · exact column?_of_read rfl
                · obtain ⟨_, -, hread⟩ := hreads lookup hmem
                  exact column?_of_read hread
              rw [hnone] at hfound
              cases hfound

end Steps

/-! ### The texts of lookups and reads -/

/-- What the catalog calls a type that holds moments, and what stands in a read for a column of that
type: the expression that reads it as moments, and those that bring the two moments that bound a range
to its type. -/
structure Conversion where
  typeName : String
  reading : String
  lower : String
  upper : String

/-- Moments with a time zone are read and compared as they are.  Those without one are in UTC. -/
def conversion : UpdatedColumn → Conversion
  | .zoned => ⟨"timestamp with time zone", "t.updated", "$1", "$2"⟩
  | .naiveUtc =>
    ⟨"timestamp without time zone", "(t.updated AT TIME ZONE 'UTC')", "($1 AT TIME ZONE 'UTC')",
      "($2 AT TIME ZONE 'UTC')"⟩

namespace Call

/-- The text by which a call reads. -/
def wording (table : TableName) (c : Conversion) : Call → String
  | .statuses _ =>
    "SELECT t.id, " ++ c.reading ++ " AS updated, t.deleted FROM " ++ table.text ++
      " t WHERE t.id = ANY($1)"
  | .entities _ =>
    "SELECT t.id, " ++ c.reading ++ " AS updated, t.deleted, " ++
      "to_jsonb(t) - 'id' - 'updated' - 'deleted' AS body FROM " ++ table.text ++
      " t WHERE t.id = ANY($1)"
  | .updatedBetween .. =>
    "SELECT t.id FROM " ++ table.text ++ " t WHERE t.updated >= " ++ c.lower ++
      " AND t.updated <= " ++ c.upper ++ " ORDER BY t.updated"

/-- What is sent with it. -/
def arguments : Call → List Argument
  | .statuses ids | .entities ids => [.ids (ids.map EntityId.uuid)]
  | .updatedBetween start stop => [.moment start, .moment stop]

end Call

/-- A statement by which a call reads a column of a type. -/
structure ReadsBy (table : TableName) (column : UpdatedColumn) (call : Call) (statement : Statement) :
    Prop where
  text : statement.text = call.wording table (conversion column)
  arguments : statement.arguments = call.arguments

/-- A statement that asks the catalog for the type of the column. -/
structure LooksUp (table : TableName) (statement : Statement) : Prop where
  text : statement.text =
    "SELECT format_type(a.atttypid, NULL) FROM pg_attribute a " ++
      "WHERE a.attrelid = $1::text::regclass AND a.attname = 'updated' AND NOT a.attisdropped"
  arguments : statement.arguments = [.text table.text]

/-- **A call reads by its type**: so in the column that it selects, and so in the bounds of a range. -/
theorem readsBy_statement (table : TableName) (column : UpdatedColumn) (call : Call) :
    ReadsBy table column call (call.statement table column) := by
  cases column with
  | zoned =>
      cases call with
      | statuses | entities | updatedBetween => exact ⟨rfl, rfl⟩
  | naiveUtc =>
      cases call with
      | statuses | entities | updatedBetween => exact ⟨rfl, rfl⟩

theorem looksUp_columnType (table : TableName) : LooksUp table (.columnType table) := ⟨rfl, rfl⟩

/-- A type is found by its name. -/
theorem ofTypeName?_eq_some_iff {name : String} {column : UpdatedColumn} :
    UpdatedColumn.ofTypeName? name = some column ↔ name = (conversion column).typeName := by
  rw [UpdatedColumn.ofTypeName?]
  cases column with
  | zoned => split <;> simp_all [conversion]
  | naiveUtc => split <;> simp_all [conversion]

/-- A lookup finds the type that the first row names. -/
theorem column?_eq_some_iff {table : TableName} {answer : Except Error (List Row)}
    {column : UpdatedColumn} : column? ⟨.columnType table, answer⟩ = some column ↔
      ∃ row rows, answer = .ok (row :: rows) ∧
        (row[0]?).bind Cell.text? = some (conversion column).typeName := by
  cases answer with
  | error e => exact iff_of_false nofun nofun
  | ok rows =>
      show columnOf? rows = some column ↔ _
      cases rows with
      | nil => exact iff_of_false nofun nofun
      | cons row rows =>
          rw [columnOf?, Option.bind_eq_some_iff]
          simp only [ofTypeName?_eq_some_iff]
          constructor
          · rintro ⟨name, hname, rfl⟩
            exact ⟨row, rows, rfl, hname⟩
          · rintro ⟨_, _, ⟨⟩, hname⟩
            exact ⟨_, hname, rfl⟩

/-- During a call a lookup is said, and a read by the type that is known then. -/
theorem Step.looksUp_or_readsBy {table : TableName} {known known' : Option UpdatedColumn} {t : Turn}
    (h : Step table known t known') {x : Exchange} (hx : x ∈ t.said) :
    LooksUp table x.statement ∨
      ∃ column, known' = some column ∧ ReadsBy table column t.call x.statement := by
  cases h with
  | unasked => cases hx
  | @known call _ column answer =>
      rw [List.mem_singleton.mp hx]
      exact .inr ⟨column, rfl, readsBy_statement table column call⟩
  | refused =>
      rw [List.mem_singleton.mp hx]
      exact .inl (looksUp_columnType table)
  | @found call _ _ column =>
      rcases List.mem_cons.mp hx with rfl | hx
      · exact .inl (looksUp_columnType table)
      · rw [List.mem_singleton.mp hx]
        exact .inr ⟨column, rfl, readsBy_statement table column call⟩

/-! ### Any calls -/

/-- How calls go on a store of which nothing is known at first. -/
structure Attentive (table : TableName) (calls : List Call) (s s' : Script) (ts : List Turn) :
    Prop where
  made : ts.map Turn.call = calls
  /-- What is said during them is all that is said. -/
  all : ts.flatMap Turn.said = s.since s'
  /-- Each call goes by what was found before it. -/
  step : ∀ before t after, ts = before ++ t :: after →
    Step table (found? (before.flatMap Turn.said)) t (found? ((before ++ [t]).flatMap Turn.said))
  /-- A lookup finds one of two types, and the catalog has to name it. -/
  named : ∀ answer column, column? ⟨.columnType table, answer⟩ = some column ↔
    ∃ row rows, answer = .ok (row :: rows) ∧
      (row[0]?).bind Cell.text? = some (conversion column).typeName
  /-- What is said is a lookup, or it reads by the conversion of the type that is found by then. -/
  converted : ∀ before t after, ts = before ++ t :: after → ∀ x ∈ t.said,
    LooksUp table x.statement ∨
      ∃ column, found? ((before ++ [t]).flatMap Turn.said) = some column ∧
        ReadsBy table column t.call x.statement
  /-- After the first lookup that finds a type, calls only read, and by the conversion of that type. -/
  settled : ∀ xs lookup ys column, ts.flatMap Turn.said = xs ++ lookup :: ys →
    column? lookup = some column → ∀ y ∈ ys, ∃ call ∈ calls,
      y.statement = call.statement table column ∧ ReadsBy table column call y.statement

/-- **The column is looked up once**, for any calls and whatever comes back.  A call that names nothing
says nothing.  Every other one first looks the column up, until a lookup finds one of the two types that
hold moments: if it finds none, the call has its error, and nothing is known afterwards.  From then on
calls only read, by the type that was found: what is selected and what bounds a range is converted as
this type needs it. -/
theorem looked_up_once (table : TableName) (s : Script) (calls : List Call) :
    let run := turns table calls (.ofScript s)
    Attentive table calls s run.2.script run.1 := by
  intro run
  obtain ⟨hcalls, htalks, hsteps⟩ := steps_turns table calls (.ofScript s)
  refine ⟨hcalls, htalks.since_eq.symm, fun before t after hts => ?_, fun answer column => ?_,
    fun before t after hts x hx => ?_, ?_⟩
  · exact hsteps.step hts
  · exact column?_eq_some_iff
  · exact Step.looksUp_or_readsBy (hsteps.step hts) hx
  · intro xs lookup ys column hsaid hfound y hy
    obtain ⟨t, ht, hy⟩ := hsteps.settled hsaid hfound y hy
    exact ⟨t.call, hcalls ▸ List.mem_map_of_mem ht, hy, hy ▸ readsBy_statement table column t.call⟩

/-- Lookups that fail, find no column or find one that holds no moments are repeated by the next call that
names something; the one that finds a type is the last. -/
example :
    let replies : List Reply := [.refused "gone", .rows [], .rows [[some (.string "text")]],
      .rows [[some (.string "timestamp without time zone")]]]
    let call : Call := .entities [⟨.ofNat 1⟩]
    let made := turns .standard [call, call, .statuses [], call, call, .updatedBetween ⟨0, 0⟩ ⟨1, 0⟩]
      (.ofScript (.ofReplies replies []))
    made.1.map (fun t => t.said.map Exchange.statement)
      = [[.columnType .standard], [.columnType .standard], [], [.columnType .standard],
          [.columnType .standard, .entities .standard .naiveUtc [⟨.ofNat 1⟩]],
          [.updatedBetween .standard .naiveUtc ⟨0, 0⟩ ⟨1, 0⟩]] := by
  rfl

end Store

end Outbox.Database
