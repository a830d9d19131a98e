import Outbox.Proofs.Config.Accepted
import Outbox.Proofs.Database.Lookup

/-!
# The name of the table in a statement

A read is a fixed text around the name of the table.  As a name is one word, the words of the statement
are those of the text before it, the name, and those of the text after it; and as it is the word after the
first `FROM`, it can be read off the statement.

* `Call.words_statement` — the words of a read;
* `source?_statement` — the name, read off a statement;
* `names_are_words` — which names are let through, and where they stand.
-/

namespace Outbox.Database

/-! ### Words -/

/-- The words of a text, between its spaces. -/
def words (s : String) : List (List Char) := s.toList.splitOn ' '

theorem words_append (a b : String) : words (a ++ " " ++ b) = words a ++ words b := by
  have hlist : (a ++ " " ++ b).toList = a.toList ++ ' ' :: b.toList := by
    rw [String.toList_append, String.toList_append, List.append_assoc]
    rfl
  rw [words, hlist, List.splitOn_eq_splitOnP, List.splitOnP_append_cons _ _ rfl]
  rfl

/-- A name is one word. -/
theorem words_table (table : TableName) : words table.text = [table.text.toList] := by
  refine List.splitOn_eq_singleton fun hspace => ?_
  exact (TableName.isIdentifier_iff.mp table.plain).not_isSpecial ' ' hspace (.inl rfl)

namespace Store

open Outbox.Time

/-! ### The words of a read -/

namespace Call

/-- What is read. -/
def selection (column : UpdatedColumn) : Call → String
  | .statuses _ => "SELECT t.id, " ++ column.reading ++ " AS updated, t.deleted"
  | .entities _ =>
    "SELECT t.id, " ++ column.reading ++ " AS updated, t.deleted, " ++
      "to_jsonb(t) - 'id' - 'updated' - 'deleted' AS body"
  | .updatedBetween .. => "SELECT t.id"

/-- Of which rows it is read. -/
def condition (column : UpdatedColumn) : Call → String
  | .statuses _ | .entities _ => "t WHERE t.id = ANY($1)"
  | .updatedBetween .. =>
    "t WHERE t.updated >= " ++ column.bound "$1" ++ " AND t.updated <= " ++ column.bound "$2" ++
      " ORDER BY t.updated"

/-- A text around a name, taken apart at the spaces beside the name. -/
theorem spliced {opening selection closing condition : String} (name : String)
    (hopening : opening = selection ++ " " ++ "FROM" ++ " ") (hclosing : closing = " " ++ condition) :
    opening ++ name ++ closing
      = selection ++ " " ++ ("FROM" ++ " " ++ (name ++ " " ++ condition)) := by
  rw [hopening, hclosing]
  simp only [String.append_assoc]

variable (call : Call) (column : UpdatedColumn) (table : TableName)

/-- The text of a read: what is read, the name, and of which rows. -/
theorem text_statement :
    (call.statement table column).text
      = call.selection column ++ " " ++
          ("FROM" ++ " " ++ (table.text ++ " " ++ call.condition column)) := by
  cases call with
  | statuses ids =>
      have hopening : "SELECT t.id, " ++ column.reading ++ " AS updated, t.deleted FROM "
          = (statuses ids).selection column ++ " " ++ "FROM" ++ " " := by
        cases column with
        | zoned => rfl
        | naiveUtc => rfl
      have hclosing : " t WHERE t.id = ANY($1)" = " " ++ (statuses ids).condition column := rfl
      exact spliced table.text hopening hclosing
  | entities ids =>
      have hopening : "SELECT t.id, " ++ column.reading ++ " AS updated, t.deleted, " ++
            "to_jsonb(t) - 'id' - 'updated' - 'deleted' AS body FROM "
          = (entities ids).selection column ++ " " ++ "FROM" ++ " " := by
        cases column with
        | zoned => rfl
        | naiveUtc => rfl
      have hclosing : " t WHERE t.id = ANY($1)" = " " ++ (entities ids).condition column := rfl
      exact spliced table.text hopening hclosing
  | updatedBetween start stop =>
      have hopening : "SELECT t.id FROM "
          = (updatedBetween start stop).selection column ++ " " ++ "FROM" ++ " " := rfl
      have hclosing : " t WHERE t.updated >= " ++ column.bound "$1" ++ " AND t.updated <= " ++
            column.bound "$2" ++ " ORDER BY t.updated"
          = " " ++ (updatedBetween start stop).condition column := by
        cases column with
        | zoned => rfl
        | naiveUtc => rfl
      calc
        _ = "SELECT t.id FROM " ++ table.text ++ (" t WHERE t.updated >= " ++ column.bound "$1" ++
              " AND t.updated <= " ++ column.bound "$2" ++ " ORDER BY t.updated") := by
            show "SELECT t.id FROM " ++ table.text ++ " t WHERE t.updated >= " ++ column.bound "$1" ++
              " AND t.updated <= " ++ column.bound "$2" ++ " ORDER BY t.updated" = _
            simp only [String.append_assoc]
        _ = _ := spliced table.text hopening hclosing

/-- **The words of a read** are those before the name, the name, and those after it. -/
theorem words_statement :
    words (call.statement table column).text
      = words (call.selection column) ++ "FROM".toList :: table.text.toList ::
          words (call.condition column) := by
  have hfrom : words "FROM" = ["FROM".toList] := by decide
  rw [text_statement, words_append, words_append, words_append, words_table, hfrom]
  rfl

/-- The table is named right after the first `FROM`. -/
theorem from_notMem_selection : "FROM".toList ∉ words (call.selection column) := by
  cases call with
  | statuses =>
      show _ ∉ words ("SELECT t.id, " ++ column.reading ++ " AS updated, t.deleted")
      cases column with
      | zoned => decide +kernel
      | naiveUtc => decide +kernel
  | entities =>
      show _ ∉ words ("SELECT t.id, " ++ column.reading ++ " AS updated, t.deleted, " ++
        "to_jsonb(t) - 'id' - 'updated' - 'deleted' AS body")
      cases column with
      | zoned => decide +kernel
      | naiveUtc => decide +kernel
  | updatedBetween =>
      show _ ∉ words "SELECT t.id"
      decide +kernel

end Call

/-- The word after the first `FROM`. -/
def source? (text : String) : Option (List Char) := ((words text).dropWhile (· != "FROM".toList))[1]?

/-- The name is read off a read. -/
theorem source?_statement (call : Call) (column : UpdatedColumn) (table : TableName) :
    source? (call.statement table column).text = some table.text.toList := by
  have hbefore : ∀ word ∈ words (call.selection column), (word != "FROM".toList) = true := by
    intro word hword
    rw [bne_iff_ne]
    rintro rfl
    exact call.from_notMem_selection column hword
  rw [source?, call.words_statement, List.dropWhile_append_of_pos hbefore,
    List.dropWhile_cons_of_neg (by rw [bne_self_eq_false]; exact Bool.false_ne_true)]
  rfl

/-- The reads of two tables have different texts, whatever is called and however the column is
stored. -/
theorem table_eq_of_text_eq {table table' : TableName} {call call' : Call}
    {column column' : UpdatedColumn}
    (h : (call.statement table column).text = (call'.statement table' column').text) :
    table = table' := by
  have hsource : some table.text.toList = some table'.text.toList := by
    rw [← source?_statement call column table, h, source?_statement]
  obtain ⟨text, _⟩ := table
  obtain ⟨text', _⟩ := table'
  obtain rfl : text = text' := String.toList_injective (Option.some.inj hsource)
  rfl

/-! ### What is said -/

/-- During a call nothing is said but a lookup and the call itself. -/
theorem Step.statement_of_mem {table : TableName} {known known' : Option UpdatedColumn} {t : Turn}
    (h : Step table known t known') {x : Exchange} (hx : x ∈ t.said) :
    x.statement = .columnType table ∨ ∃ column, x.statement = t.call.statement table column := by
  cases h with
  | unasked => cases hx
  | known _ column _ => exact .inr ⟨column, congrArg _ (List.mem_singleton.mp hx)⟩
  | refused => exact .inl (congrArg _ (List.mem_singleton.mp hx))
  | @found _ _ _ column =>
      rcases List.mem_cons.mp hx with rfl | hx
      · exact .inl rfl
      · exact .inr ⟨column, congrArg _ (List.mem_singleton.mp hx)⟩

theorem Steps.statement_of_mem {table : TableName} {known known' : Option UpdatedColumn}
    {ts : List Turn} (h : Steps table known ts known') {x : Exchange}
    (hx : x ∈ ts.flatMap Turn.said) :
    x.statement = .columnType table ∨
      ∃ t ∈ ts, ∃ column, x.statement = t.call.statement table column := by
  induction h with
  | nil => cases hx
  | @cons _ _ _ t ts hstep _ ih =>
      rcases List.mem_append.mp (List.flatMap_cons ▸ hx) with hx | hx
      · exact (hstep.statement_of_mem hx).imp id fun hread => ⟨t, List.mem_cons_self, hread⟩
      · exact (ih hx).imp id fun ⟨t', ht', hread⟩ => ⟨t', List.mem_cons_of_mem t ht', hread⟩

/-- How the name of a table stands in a read. -/
structure Spliced (table : TableName) (column : UpdatedColumn) (call : Call) : Prop where
  /-- The text around it is the same for all tables. -/
  text : (call.statement table column).text
    = call.selection column ++ " FROM " ++ table.text ++ " " ++ call.condition column
  /-- It is one word. -/
  word : words (call.statement table column).text
    = words (call.selection column) ++ "FROM".toList :: table.text.toList ::
        words (call.condition column)
  /-- No character of it means anything but itself. -/
  plain : ∀ c ∈ table.text.toList, ¬TableName.IsSpecial c

/-- **Only plain names reach a statement.**  A text becomes a table exactly if it is a plain name, and so
does what an environment sets.  In each read the name is one word of a text that is otherwise the same for
all tables, and two tables never have the same read.  Besides reads there is only the lookup, whose text
is the same for all tables. -/
theorem names_are_words :
    (∀ s : String, (∃ table, TableName.ofText s = .ok table ∧ table.text = s) ↔
      TableName.Plain s.toList) ∧
    (∀ (env : Environment) (c : Config), Config.fromEnvironment env = .ok c →
      c.primaryTable.text = (env.optional "PRIMARY_TABLE").getD "annotation") ∧
    (∀ (table : TableName) (column : UpdatedColumn) (call : Call), Spliced table column call) ∧
    (∀ (table table' : TableName) (column column' : UpdatedColumn) (call call' : Call),
      table ≠ table' →
        (call.statement table column).text ≠ (call'.statement table' column').text) ∧
    ∀ (table : TableName) (calls : List Call) (s : Script),
      ∀ x ∈ s.since (turns table calls (.ofScript s)).2.script,
        x.statement.text = (Statement.columnType .standard).text ∨
          ∃ call ∈ calls, ∃ column, x.statement = call.statement table column := by
  refine ⟨fun s => TableName.exists_ofText_iff,
    fun env c hc => (Config.fromEnvironment_eq_ok_iff.mp hc).primaryTable,
    fun table column call => ⟨?_, call.words_statement column table,
      (TableName.isIdentifier_iff.mp table.plain).not_isSpecial⟩,
    fun table table' column column' call call' hne htext => hne (table_eq_of_text_eq htext),
    fun table calls s x hx => ?_⟩
  · rw [call.text_statement, show " FROM " = " " ++ ("FROM" ++ " ") from rfl]
    simp only [String.append_assoc]
  · obtain ⟨hcalls, htalks, hsteps⟩ := steps_turns table calls (.ofScript s)
    have hsaid : s.since (turns table calls (.ofScript s)).2.script = _ := htalks.since_eq
    rw [hsaid] at hx
    rcases hsteps.statement_of_mem hx with hlookup | ⟨t, ht, hread⟩
    · exact .inl ((congrArg Statement.text hlookup).trans rfl)
    · exact .inr ⟨t.call, hcalls ▸ List.mem_map_of_mem ht, hread⟩

/-- A table of another schema. -/
def archived : TableName := ⟨"archive.annotation", by decide +kernel⟩

theorem names_are_words_archived :
    let env : Environment :=
      ("PRIMARY_TABLE", Config.ascii "archive.annotation") :: Config.withInterval "5"
    let c : Config := { Config.configured (.ofSeconds 5) with primaryTable := archived }
    Config.fromEnvironment env = .ok c ∧ c.primaryTable.text = "archive.annotation" ∧
      archived ≠ .standard ∧
      (Statement.statuses archived .zoned []).text ≠ (Statement.statuses .standard .zoned []).text := by
  intro env c
  have hc : Config.fromEnvironment env = .ok c := by decide +kernel
  have hset : (env.optional "PRIMARY_TABLE").getD "annotation" = "archive.annotation" := by
    decide +kernel
  have hne : archived ≠ .standard := by decide +kernel
  exact ⟨hc, (names_are_words.2.1 env c hc).trans hset, hne,
    names_are_words.2.2.2.1 _ _ .zoned .zoned (.statuses []) (.statuses []) hne⟩

end Store

end Outbox.Database
