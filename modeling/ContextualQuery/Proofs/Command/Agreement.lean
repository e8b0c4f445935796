import ContextualQuery.Command.Run
import ContextualQuery.Proofs.Except
import ContextualQuery.Proofs.Json.Indented
import ContextualQuery.Proofs.Query.ErrorShape
import ContextualQuery.Proofs.Query.LastLine

/-!
# Printing and checking agree

Printing stops at the first query that cannot be read, checking goes through all of them. They still
judge a list of queries alike, and what a report calls canonical is what printing prints.

* `Command.runParse_succeeded`, `Command.runCheck_succeeded`: each succeeds if all can be read;
* `Command.runParse_output`: printing, as the renderings of the readable queries at the front;
* `Command.runCheck_output`, `Command.reported_members`: the report, and what it holds of a query;
* `parse_agrees_with_check`: the two commands side by side.
-/
namespace ContextualQuery

namespace Outcome

theorem exit_eq_zero_iff (o : Outcome) : o.exit = 0 ↔ o.succeeded = true := by
  unfold exit
  split <;> simp [*]

@[simp]
theorem succeeded_after (emissions : List Emission) (o : Outcome) :
    (o.after emissions).succeeded = o.succeeded := rfl

theorem output_after (emissions : List Emission) (o : Outcome) :
    (o.after emissions).output = String.join (emissions.map Emission.onOutput) ++ o.output := by
  simp [after, output]

end Outcome

namespace Command

/-- The trees of the queries before the first that cannot be read. -/
def readable (choice : ServerChoice) (queries : List String) : List Node :=
  ((queries.map (Node.parse · choice)).takeWhile (·.isOk)).filterMap Except.toOption

theorem readable_cons_ok {choice : ServerChoice} {query : String} {n : Node}
    (read : Node.parse query choice = .ok n) (rest : List String) :
    readable choice (query :: rest) = n :: readable choice rest := by
  simp [readable, read, List.takeWhile_cons]

theorem readable_cons_error {choice : ServerChoice} {query : String} {e : QueryError}
    (read : Node.parse query choice = .error e) (rest : List String) :
    readable choice (query :: rest) = [] := by
  simp [readable, read]

/-- What is printed of a tree: its rendering without the line feeds at its end, and one after. -/
def printed (output : OutputSettings) (n : Node) : String :=
  Text.trimNewlines (output.render n) ++ "\n"

theorem runParse_succeeded (output : OutputSettings) (choice : ServerChoice)
    (queries : List String) : (runParse output choice queries).succeeded = true ↔
      ∀ query ∈ queries, (Node.parse query choice).isOk = true := by
  induction queries with
  | nil => simp [runParse]
  | cons query rest ih =>
    rw [List.forall_mem_cons, runParse]
    cases read : Node.parse query choice with
    | ok n => simpa using ih
    | error e => simp

/-- Printing writes the readable queries at the front, and nothing of any other. -/
theorem runParse_output (output : OutputSettings) (choice : ServerChoice) (queries : List String) :
    (runParse output choice queries).output =
      String.join ((readable choice queries).map (printed output)) := by
  induction queries with
  | nil => rfl
  | cons query rest ih =>
    rw [runParse]
    cases read : Node.parse query choice with
    | ok n =>
      simp only [Outcome.output_after, ih, readable_cons_ok read]
      simp [rendered, printed, Emission.onOutput, debug]
    | error e =>
      rw [readable_cons_error read]
      rfl

/-- A query after the first that cannot be read is not printed. -/
example : (runParse {} {} ["a", "", "b"]).output = "\"a\"\n" := by decide +kernel

end Command

namespace CheckEntry

theorem isValid_ofQuery (choice : ServerChoice) (query : String) :
    (ofQuery choice query).isValid = (Node.parse query choice).isOk := by
  unfold isValid ofQuery
  cases Node.parse query choice <;> rfl

def members (e : CheckEntry) : List (String × Json) :=
  [("query", .string e.query), ("valid", .bool e.isValid),
    match e.result with
    | .ok canonical => ("canonical", .string canonical)
    | .error err => ("error", errorJson err)]

theorem toJson_eq_object (e : CheckEntry) : e.toJson = .object e.members := rfl

/-- An entry holds the canonical text of a query that can be read. -/
theorem get?_canonical (choice : ServerChoice) (query : String) :
    Json.get? (ofQuery choice query).members "canonical" =
      (Node.parse query choice).toOption.map fun n => .string n.toCql := by
  unfold members ofQuery
  cases Node.parse query choice <;> rfl

theorem errorJson_exact {e : QueryError} (fits : e.position ≤ maxWord) :
    (errorJson e).Exact ∧ (errorJson e).height ≤ 1 := by
  apply Json.Exact.object_height
  · cases e.token <;> cases e.suggestion <;> simp [member?]
  · intro m hm
    simp only [member?, List.mem_append, List.mem_cons, List.not_mem_nil, or_false,
      List.mem_map] at hm
    obtain ((rfl | rfl | rfl) | ⟨s, -, rfl⟩) | ⟨s, -, rfl⟩ := hm
    · exact ⟨.string _, Nat.le_refl 0⟩
    · exact ⟨.string _, Nat.le_refl 0⟩
    · exact ⟨.word fits, Nat.le_refl 0⟩
    · exact ⟨.string s, Nat.le_refl 0⟩
    · exact ⟨.string s, Nat.le_refl 0⟩

/-- If there is an error, its place in the query is a word. -/
theorem toJson_exact {choice : ServerChoice} {query : String}
    (fits : Text.byteSize query.toList ≤ maxWord) :
    (ofQuery choice query).toJson.Exact ∧ (ofQuery choice query).toJson.height ≤ 2 := by
  unfold toJson ofQuery
  apply Json.Exact.object_height
  · cases Node.parse query choice <;> simp [Except.map]
  · simp only [List.forall_mem_cons, List.not_mem_nil, false_implies, implies_true, and_true]
    refine ⟨⟨.string query, Nat.zero_le 1⟩, ⟨.bool _, Nat.zero_le 1⟩, ?_⟩
    cases read : Node.parse query choice with
    | ok n => exact ⟨.string _, Nat.zero_le 1⟩
    | error e => exact errorJson_exact (Nat.le_trans (parse_error_boundary read).le fits)

end CheckEntry

namespace CheckReport

theorem total_ofQueries (choice : ServerChoice) (queries : List String) :
    (ofQueries choice queries).total = queries.length := List.length_map _

theorem failed_ofQueries (choice : ServerChoice) (queries : List String) :
    (ofQueries choice queries).failed =
      queries.countP fun query => !(Node.parse query choice).isOk := by
  simp only [failed, ofQueries, List.countP_map, Function.comp_def, CheckEntry.isValid_ofQuery]

/-- The report for machines: the counts, and the members of each entry. -/
theorem toJson_ofQueries (choice : ServerChoice) (queries : List String) :
    (ofQueries choice queries).toJson = .object [("total", .ofNat queries.length),
      ("failed", .ofNat (queries.countP fun query => !(Node.parse query choice).isOk)),
      ("queries", .array ((queries.map fun query =>
        (CheckEntry.ofQuery choice query).members).map .object))] := by
  have entries : (ofQueries choice queries).entries.map CheckEntry.toJson =
      (queries.map fun query => (CheckEntry.ofQuery choice query).members).map .object := by
    rw [ofQueries, List.map_map, List.map_map]
    exact List.map_congr_left fun query _ => CheckEntry.toJson_eq_object _
  rw [toJson, total_ofQueries, failed_ofQueries, entries]

/-- A report is read back from its text, as long as its counts and the places in it fit words. -/
theorem parse_toJson (choice : ServerChoice) {queries : List String}
    (few : queries.length ≤ maxWord)
    (short : ∀ query ∈ queries, Text.byteSize query.toList ≤ maxWord) :
    Json.parse 128 ((ofQueries choice queries).toJson.indented 0 ++ "\n") =
      .ok (ofQueries choice queries).toJson := by
  have total : (ofQueries choice queries).total ≤ maxWord := by rwa [total_ofQueries]
  have failed : (ofQueries choice queries).failed ≤ maxWord :=
    Nat.le_trans List.countP_le_length total
  have entries : ∀ v ∈ (ofQueries choice queries).entries.map CheckEntry.toJson,
      v.Exact ∧ v.height ≤ 2 := by
    intro v hv
    rw [ofQueries, List.map_map] at hv
    obtain ⟨query, listed, rfl⟩ := List.mem_map.mp hv
    exact CheckEntry.toJson_exact (short query listed)
  have whole : (ofQueries choice queries).toJson.Exact ∧
      (ofQueries choice queries).toJson.height ≤ 4 := by
    apply Json.Exact.object_height
    · simp
    · simp only [List.forall_mem_cons, List.not_mem_nil, false_implies, implies_true, and_true]
      exact ⟨⟨.word total, Nat.zero_le 3⟩, ⟨.word failed, Nat.zero_le 3⟩,
        Json.Exact.array_height entries⟩
  exact whole.1.parse_indented 0 (List.all_eq_true.mp rfl) (Nat.lt_of_le_of_lt whole.2 (by decide))

end CheckReport

namespace Command

theorem runCheck_succeeded (choice : ServerChoice) (queries : List String) (json : Bool) :
    (runCheck choice queries json).succeeded = true ↔
      ∀ query ∈ queries, (Node.parse query choice).isOk = true := by
  simp [runCheck, CheckReport.failed_ofQueries, List.countP_eq_zero]

/-- While queries are checked, nothing is said on the standard output. -/
theorem onOutput_checkNotes (json : Bool) (entry : CheckEntry) :
    String.join ((checkNotes json entry).map Emission.onOutput) = "" := by
  unfold checkNotes
  cases entry.result with
  | ok canonical => rfl
  | error e => cases json <;> rfl

/-- The report is all that checking for machines writes. -/
theorem runCheck_output (choice : ServerChoice) (queries : List String) :
    (runCheck choice queries true).output =
      (CheckReport.ofQueries choice queries).toJson.indented 0 ++ "\n" := by
  have silent (entries : List CheckEntry) :
      String.join ((entries.flatMap (checkNotes true)).map Emission.onOutput) = "" := by
    induction entries with
    | nil => rfl
    | cons entry rest ih =>
      rw [List.flatMap_cons, List.map_append, String.join_append, onOutput_checkNotes, ih]
      rfl
  simp only [Outcome.output, runCheck, List.map_append, String.join_append, silent]
  simp [verdict, Emission.onOutput]

/-- What a report holds of a query: whether it can be read, and if so, the line that printing it as
canonical text prints. -/
structure Reported (settings : Settings) (s : Surroundings) (options : ChoiceOptions)
    (query : String) (entry : List (String × Json)) : Prop where
  asked : Json.get? entry "query" = some (.string query)
  valid : Json.get? entry "valid" =
    some (.bool (Node.parse query (options.over settings.choice)).isOk)
  shown : (Json.get? entry "canonical").isSome =
    (Node.parse query (options.over settings.choice)).isOk
  canonical : ∀ value, Json.get? entry "canonical" = some value →
    ∃ text, value = .string text ∧
      (run settings s (.parse [query] (some .cql) options)).output = text ++ "\n"

/-- Printing a single query as canonical text prints that text on a line. -/
theorem output_parse_cql (settings : Settings) (s : Surroundings) {options : ChoiceOptions}
    {query : String} {n : Node} (read : Node.parse query (options.over settings.choice) = .ok n) :
    (run settings s (.parse [query] (some .cql) options)).output = n.toCql ++ "\n" := by
  rw [run, runParse_output, readable_cons_ok read]
  simp [readable, printed, OutputSettings.render, OutputSettings.withFormat, n.trimNewlines_toCql]

theorem reported_members (settings : Settings) (s : Surroundings) (options : ChoiceOptions)
    (query : String) : Reported settings s options query
      (CheckEntry.ofQuery (options.over settings.choice) query).members := by
  constructor
  · rfl
  · rw [← CheckEntry.isValid_ofQuery]
    rfl
  · rw [CheckEntry.get?_canonical, Option.isSome_map]
    cases Node.parse query (options.over settings.choice) <;> simp
  · intro value held
    rw [CheckEntry.get?_canonical] at held
    cases read : Node.parse query (options.over settings.choice) with
    | error e => simp [read] at held
    | ok n =>
      rw [read, Except.toOption_ok, Option.map_some, Option.some.injEq] at held
      exact ⟨n.toCql, held.symm, output_parse_cql settings s read⟩

end Command

/-- Printing and checking succeed alike, if every query can be read under the server's choice in
effect. Printing writes the queries before the first that cannot, each in the chosen format with one
line feed at its end, of which only XCQL has one already. The report is an object with the number of
queries, the number that cannot be read, and the entries of all queries in their order; it is what a
reader finds in the printed text, as long as the counts and the places in it fit words. -/
theorem parse_agrees_with_check (settings : Settings) (s : Surroundings) (options : ChoiceOptions)
    (format : Option OutputFormat) (queries : List String) :
    let choice := options.over settings.choice
    let output := settings.output.withFormat format
    let printing := Command.run settings s (.parse queries format options)
    let checking := fun json => Command.run settings s (.check queries json options)
    (printing.exit = 0 ↔ ∀ query ∈ queries, (Node.parse query choice).isOk = true) ∧
    (∀ json, (checking json).exit = 0 ↔ printing.exit = 0) ∧
    printing.output = String.join ((Command.readable choice queries).map fun n =>
      Text.trimNewlines (output.render n) ++ "\n") ∧
    (∀ n, output.render n =
      Text.trimNewlines (output.render n) ++ if output.format = .xcql then "\n" else "") ∧
    (∀ n, ∀ c ∈ (Text.trimNewlines (output.render n)).toList.getLast?, c ≠ '\n') ∧
    ∃ entries, List.Forall₂ (Command.Reported settings s options) queries entries ∧
      let report := Json.object [("total", .ofNat queries.length),
        ("failed", .ofNat (queries.countP fun query => !(Node.parse query choice).isOk)),
        ("queries", .array (entries.map .object))]
      (checking true).output = report.indented 0 ++ "\n" ∧
      (queries.length ≤ maxWord → (∀ query ∈ queries, Text.byteSize query.toList ≤ maxWord) →
        Json.parse 128 (checking true).output = .ok report) := by
  intro choice output printing checking
  have printed_all : printing.exit = 0 ↔ ∀ query ∈ queries, (Node.parse query choice).isOk = true :=
    printing.exit_eq_zero_iff.trans (Command.runParse_succeeded output choice queries)
  have checked_all (json : Bool) :
      (checking json).exit = 0 ↔ ∀ query ∈ queries, (Node.parse query choice).isOk = true :=
    (checking json).exit_eq_zero_iff.trans (Command.runCheck_succeeded choice queries json)
  refine ⟨printed_all, fun json => (checked_all json).trans printed_all.symm,
    Command.runParse_output output choice queries, output.render_eq_trimNewlines_append,
    fun n => Text.getLast?_trimNewlines (output.render n),
    queries.map fun query => (CheckEntry.ofQuery choice query).members, ?_, ?_, ?_⟩
  · rw [List.forall₂_map_right_iff, List.forall₂_same]
    exact fun query _ => Command.reported_members settings s options query
  · have report := Command.runCheck_output choice queries
    rw [CheckReport.toJson_ofQueries] at report
    exact report
  · intro few short
    have report := CheckReport.parse_toJson choice few short
    rw [← Command.runCheck_output, CheckReport.toJson_ofQueries] at report
    exact report

/-- The second query leaves a group open, after a letter of two bytes: the report is read back with
an entry for each, and a canonical text in the first only. -/
theorem parse_agrees_with_check_unclosed :
    ["a", "(é"].length ≤ maxWord ∧ (∀ query ∈ ["a", "(é"], Text.byteSize query.toList ≤ maxWord) ∧
      ∃ s : Surroundings, (Command.run {} s (.parse ["a", "(é"] none {})).exit ≠ 0 ∧
        ∃ first second, Json.parse 128 (Command.run {} s (.check ["a", "(é"] true {})).output =
            .ok (.object [("total", .ofNat 2), ("failed", .ofNat 1),
              ("queries", .array [.object first, .object second])]) ∧
          Json.get? first "canonical" = some (.string "\"a\"") ∧
          Json.get? second "canonical" = none := by
  have few : ["a", "(é"].length ≤ maxWord := by decide
  have short : ∀ query ∈ ["a", "(é"], Text.byteSize query.toList ≤ maxWord := by decide
  let s : Surroundings := ⟨"/", none, fun _ => default, default, none⟩
  refine ⟨few, short, s, ?_⟩
  obtain ⟨printed, -, -, -, -, entries, reported, -, read⟩ :=
    parse_agrees_with_check {} s {} none ["a", "(é"]
  have isRead : (Node.parse "a" {}).isOk = true := by decide +kernel
  have notRead : (Node.parse "(é" {}).isOk = false := by decide +kernel
  have failed : (["a", "(é"].countP fun query => !(Node.parse query {}).isOk) = 1 := by
    simp [isRead, notRead]
  refine ⟨?_, ?_⟩
  · intro success
    have both := printed.mp success "(é" (by simp)
    exact absurd (both.symm.trans notRead) (by decide)
  · obtain _ | @⟨_, first, _, _, one, _ | @⟨_, second, _, _, two, _ | _⟩⟩ := reported
    refine ⟨first, second, (read few short).trans ?_, ?_, ?_⟩
    · exact congrArg (fun n => Except.ok (Json.object [("total", .ofNat 2), ("failed", .ofNat n),
        ("queries", .array [.object first, .object second])])) failed
    · obtain ⟨value, held⟩ := Option.isSome_iff_exists.mp (one.shown.trans isRead)
      obtain ⟨text, rfl, line⟩ := one.canonical value held
      have shown : (Command.run {} s (.parse ["a"] (some .cql) {})).output = "\"a\"" ++ "\n" := by
        decide +kernel
      have same : text = "\"a\"" := (String.append_left_inj "\n").mp (line.symm.trans shown)
      rw [held, same]
    · exact Option.isNone_iff_eq_none.mp (Option.isSome_eq_false_iff.mp (two.shown.trans notRead))

end ContextualQuery
