import Outbox.Proofs.Database.Exchange

/-!
# What a read of the store says

A read of the primary store needs to know how its column is stored.  If that is not known yet, the
catalog is asked first; only if it names one of the two types that hold moments is the read itself
sent, with the conversion of this type.

* `says_updatedColumn` — what is said to find out how the column is stored;
* `says_asking` — what is said by a read;
* `Asked.exists_rows` — what a read that succeeds was made from;
* `reads_statuses`, `reads_entities`, `reads_updatedBetween` — the store only reads.
-/

namespace Outbox.Database

/-- The type that the catalog names in its first row, if it is one that holds moments. -/
def columnOf? : List Row → Option UpdatedColumn
  | [] => none
  | row :: _ => ((row[0]?).bind Cell.text?).bind UpdatedColumn.ofTypeName?

/-- How the type of the column is found out, from what is known of it. -/
inductive Lookup (table : TableName) :
    Option UpdatedColumn → Except Error UpdatedColumn → List Exchange → Prop
  | known (column : UpdatedColumn) : Lookup table (some column) (.ok column) []
  | found {rows : List Row} {column : UpdatedColumn} (h : columnOf? rows = some column) :
      Lookup table none (.ok column) [⟨.columnType table, .ok rows⟩]
  | unusable {rows : List Row} (h : columnOf? rows = none) (e : Error) :
      Lookup table none (.error e) [⟨.columnType table, .ok rows⟩]
  | refused (e : Error) : Lookup table none (.error e) [⟨.columnType table, .error e⟩]

/-- The error of a lookup, by what came back for it: it failed, or it found no column, or one that
holds no moments. -/
inductive Refusal (table : TableName) : Except Error (List Row) → Error → Prop
  | failed (e : Error) : Refusal table (.error e) e
  | missing : Refusal table (.ok []) (.config ("table " ++ table.text ++ " has no updated column"))
  | nameless {row : Row} {rows : List Row} (h : (row[0]?).bind Cell.text? = none) :
      Refusal table (.ok (row :: rows)) (.database (.nullColumn (.position 0)))
  | other {row : Row} {rows : List Row} {name : String} (h : (row[0]?).bind Cell.text? = some name)
      (hname : UpdatedColumn.ofTypeName? name = none) :
      Refusal table (.ok (row :: rows))
        (.config (table.text ++ ".updated must be a timestamp column, found " ++ name))

/-- What is refused names no type that holds moments. -/
theorem Refusal.columnOf?_eq {table : TableName} {rows : List Row} {e : Error}
    (h : Refusal table (.ok rows) e) : columnOf? rows = none := by
  cases h with
  | missing => rfl
  | nameless h => rw [columnOf?, h, Option.bind_none]
  | other h hname => rw [columnOf?, h, Option.bind_some, hname]

theorem Refusal.lookup {table : TableName} {answer : Except Error (List Row)} {e : Error}
    (h : Refusal table answer e) :
    Lookup table none (.error e) [⟨.columnType table, answer⟩] := by
  cases answer with
  | error =>
      cases h with
      | failed => exact .refused e
  | ok rows => exact .unusable h.columnOf?_eq e

/-- How a read goes: the column is looked up if need be, and then one statement is sent. -/
inductive Asked {α : Type} (table : TableName) (statement : UpdatedColumn → Statement)
    (read : List Row → Except Error α) (known : Option UpdatedColumn) :
    Except Error α → List Exchange → Prop
  | unknown {e : Error} {xs : List Exchange} (h : Lookup table known (.error e) xs) :
      Asked table statement read known (.error e) xs
  | asked {column : UpdatedColumn} {xs : List Exchange} (h : Lookup table known (.ok column) xs)
      (answer : Except Error (List Row)) :
      Asked table statement read known (answer >>= read) (xs ++ [⟨statement column, answer⟩])

theorem Lookup.isWork {table : TableName} {known : Option UpdatedColumn}
    {result : Except Error UpdatedColumn} {xs : List Exchange} (h : Lookup table known result xs) :
    ∀ x ∈ xs, x.statement.isWork = true := by
  cases h with
  | known => exact List.forall_mem_nil _
  | found | unusable | refused => exact List.forall_mem_singleton.mpr rfl

namespace Asked

variable {α : Type} {table : TableName} {statement : UpdatedColumn → Statement}
  {read : List Row → Except Error α} {known : Option UpdatedColumn} {xs : List Exchange}

/-- Nothing is said but the lookup and the read. -/
theorem isWork {result : Except Error α} (h : Asked table statement read known result xs)
    (hstatement : ∀ column, (statement column).isWork = true) :
    ∀ x ∈ xs, x.statement.isWork = true := by
  cases h with
  | unknown hlookup => exact hlookup.isWork
  | asked hlookup answer =>
      exact List.forall_mem_append.mpr
        ⟨hlookup.isWork, List.forall_mem_singleton.mpr (hstatement _)⟩

/-- A read that succeeds found the rows that it was made from. -/
theorem exists_rows {a : α} (h : Asked table statement read known (.ok a) xs) :
    ∃ column rows, ⟨statement column, .ok rows⟩ ∈ xs ∧ read rows = .ok a := by
  generalize hresult : (Except.ok a : Except Error α) = result at h
  cases h with
  | unknown => cases hresult
  | @asked column _ _ answer =>
      cases answer with
      | error e => cases hresult
      | ok rows => exact ⟨column, rows, by simp, rfl⟩

end Asked

namespace Store

/-- One statement that is sent over a connection. -/
theorem says_connectionQuery (statement : Statement) (hsimple : statement.isSimple = false)
    (c : Connection) :
    Says Connection.script (fun x xs => xs = [⟨statement, x⟩]) (Connection.query statement) c :=
  .within c rfl (fun _ => rfl) (says_query statement hsimple c.script)

/-- What is exchanged by one statement over a connection. -/
theorem talks_connectionQuery {statement : Statement} (h : statement.isSimple = false)
    (c : Connection) :
    Talks c.script [⟨statement, ((Connection.query statement).exec c).1⟩]
      ((Connection.query statement).exec c).2.script := by
  obtain ⟨_, htalks, rfl⟩ := says_connectionQuery statement h c
  exact htalks

/-- A lookup is refused, or finds a type. -/
theorem exec_detectColumn {table : TableName} {c c' : Connection} {answer : Except Error (List Row)}
    (h : (Connection.query (.columnType table)).exec c = (answer, c')) :
    (∃ e, Refusal table answer e ∧ (detectColumn table).exec c = (.error e, c')) ∨
      ∃ rows column, answer = .ok rows ∧ columnOf? rows = some column ∧
        (detectColumn table).exec c = (.ok column, c') := by
  rw [detectColumn]
  cases answer with
  | error e => exact .inl ⟨e, .failed e, Action.exec_bind_error h _⟩
  | ok rows =>
      rw [Action.exec_bind_ok h]
      cases rows with
      | nil => exact .inl ⟨_, .missing, rfl⟩
      | cons row rows =>
          dsimp only
          rw [numbered, column]
          cases hname : (row[0]?).bind Cell.text? with
          | none => exact .inl ⟨_, .nameless hname, rfl⟩
          | some name =>
              have hcolumn : columnOf? (row :: rows) = UpdatedColumn.ofTypeName? name := by
                rw [columnOf?, hname, Option.bind_some]
              dsimp only
              split
              · rename_i column htype
                exact .inr ⟨_, column, rfl, hcolumn.trans htype, rfl⟩
              · rename_i htype
                exact .inl ⟨_, .other hname htype, rfl⟩

theorem says_detectColumn (table : TableName) (c : Connection) :
    Says Connection.script (Lookup table none) (detectColumn table) c := by
  have htalks := @talks_connectionQuery (.columnType table) rfl c
  rcases hasking : (Connection.query (.columnType table)).exec c with ⟨answer, c'⟩
  rw [hasking] at htalks
  rcases exec_detectColumn hasking with
    ⟨e, hrefused, hdetect⟩ | ⟨rows, column, rfl, hrows, hdetect⟩
  · rw [Says, hdetect]
    exact ⟨_, htalks, hrefused.lookup⟩
  · rw [Says, hdetect]
    exact ⟨_, htalks, .found hrows⟩

/-- What is known of the column is not found out again. -/
theorem exec_updatedColumn_of_known {table : TableName} {c : Connection} {column : UpdatedColumn}
    (h : c.column = some column) : (updatedColumn table).exec c = (.ok column, c) := by
  have hget : (get : Action Connection Connection).exec c = (.ok c, c) := rfl
  rw [updatedColumn, Action.exec_bind_ok hget, h]
  rfl

/-- What is found out about the column is kept. -/
theorem exec_updatedColumn_of_unknown {table : TableName} {c : Connection} (h : c.column = none) :
    (updatedColumn table).exec c
      = (detectColumn table >>= fun column =>
          (modify fun s : Connection => { s with column := some column } : Action Connection PUnit) >>=
            fun _ => pure column).exec c := by
  have hget : (get : Action Connection Connection).exec c = (.ok c, c) := rfl
  rw [updatedColumn, Action.exec_bind_ok hget, h]

theorem says_updatedColumn (table : TableName) (c : Connection) :
    Says Connection.script (Lookup table c.column) (updatedColumn table) c := by
  cases hknown : c.column with
  | some column =>
      have hexec : (updatedColumn table).exec c = (.ok column, c) :=
        exec_updatedColumn_of_known hknown
      refine .silent (by rw [hexec]) ?_
      rw [hexec]
      exact .known column
  | none =>
      rw [Says, exec_updatedColumn_of_unknown hknown]
      refine (says_detectColumn table c).bind (fun e xs h => h) fun column c' xs _ hfound => ?_
      -- what was found out is kept, and nothing more is said
      exact .silent rfl ((List.append_nil xs).symm ▸ hfound)

variable {α : Type} (table : TableName) (statement : UpdatedColumn → Statement)
  (read : List Row → Except Error α)

/-- Finds out how the column is stored, sends a statement that reads it so, and reads the rows. -/
def asking : Action Connection α := do
  let column ← updatedColumn table
  let rows ← Connection.query (statement column)
  Action.ofView fun _ => read rows

theorem updatedBetween_eq (start stop : Time.Timestamp) :
    updatedBetween table start stop
      = asking table (fun column => .updatedBetween table column start stop) (·.mapM idOfRow) := rfl

variable {statement} in
/-- **A read** is not sent before it is known how the column is stored. -/
theorem says_asking (hsimple : ∀ column, (statement column).isSimple = false) (c : Connection) :
    Says Connection.script (Asked table statement read c.column) (asking table statement read) c := by
  rw [asking]
  refine (says_updatedColumn table c).bind (fun e xs h => .unknown h) fun column c' xs _ hlookup => ?_
  refine (says_connectionQuery (statement column) (hsimple column) c').bind ?_ ?_
  · rintro e _ rfl
    exact .asked hlookup (.error e)
  · rintro rows c'' _ - rfl
    exact .silent rfl (.asked hlookup (.ok rows))

/-! ### Every read -/

/-- Only reads. -/
abbrev Reads {α : Type} (_ : Except Error α) (xs : List Exchange) : Prop :=
  ∀ x ∈ xs, x.statement.isWork = true

theorem Reads.nil {α : Type} (x : Except Error α) : Reads x [] :=
  fun _ hx => absurd hx List.not_mem_nil

theorem reads_query (statement : Statement) (hsimple : statement.isSimple = false)
    (hwork : statement.isWork = true) (c : Connection) :
    Says Connection.script Reads (Connection.query statement) c := by
  refine (says_connectionQuery statement hsimple c).mono ?_
  rintro x _ rfl
  exact List.forall_mem_singleton.mpr hwork

theorem Reads.bind {α β : Type} {a : Action Connection α} {f : α → Action Connection β}
    {c : Connection} (h : Says Connection.script Reads a c)
    (hf : ∀ x c', Says Connection.script Reads (f x) c') : Says Connection.script Reads (a >>= f) c :=
  Says.bind h (fun _ _ => id) fun x c' _ _ hxs =>
    (hf x c').mono fun _ _ hys => List.forall_mem_append.mpr ⟨hxs, hys⟩

theorem reads_updatedColumn (table : TableName) (c : Connection) :
    Says Connection.script Reads (updatedColumn table) c :=
  (says_updatedColumn table c).mono fun _ _ hlookup => hlookup.isWork

theorem reads_statuses (table : TableName) (ids : List EntityId) (c : Connection) :
    Says Connection.script Reads (statuses table ids) c := by
  rw [statuses]
  split
  · exact .value (.nil _) c
  · refine Reads.bind (reads_updatedColumn table c) fun column c' => ?_
    refine Reads.bind (reads_query (.statuses table column ids) rfl rfl c')
      fun rows c'' => ?_
    exact Reads.bind (.silent rfl (.nil _)) fun found c₃ => .value (.nil _) c₃

theorem reads_entities (table : TableName) (ids : List EntityId) (c : Connection) :
    Says Connection.script Reads (entities table ids) c := by
  rw [entities]
  split
  · exact .value (.nil _) c
  · refine Reads.bind (reads_updatedColumn table c) fun column c' => ?_
    refine Reads.bind (reads_query (.entities table column ids) rfl rfl c')
      fun rows c'' => ?_
    exact .silent rfl (.nil _)

theorem reads_updatedBetween (table : TableName) (start stop : Time.Timestamp) (c : Connection) :
    Says Connection.script Reads (updatedBetween table start stop) c := by
  rw [updatedBetween_eq]
  exact (says_asking table _ (fun _ => rfl) c).mono fun _ _ hasked => hasked.isWork fun _ => rfl

end Store

end Outbox.Database
