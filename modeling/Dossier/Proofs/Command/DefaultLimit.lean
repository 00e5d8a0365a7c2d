import Dossier.Command.Run
import Dossier.Proofs.Json.Shape

/-!
Searches that leave the page size to the configuration. The default size and the greatest size are
settings of their own, each with a default, and nothing that reads a configuration compares them. A
search without a limit is therefore as good as its configuration: it passes the bounds on every
request just if the default size passes them.
-/

namespace Dossier

namespace Config

def LimitFits (c : Config) : Prop := 0 < c.defaultLimit ∧ c.defaultLimit ≤ c.maxLimit

instance (c : Config) : Decidable c.LimitFits := inferInstanceAs (Decidable (_ ∧ _))

section LeftOut

variable {members : List (Key × Node)} {ending : Option Break} {c : Config}

theorem defaultLimit_of_left_out (out : ∀ m ∈ members, m.1 ≠ .ok "default_limit")
    (read : shape (.object members ending) = .ok c) : c.defaultLimit = default.defaultLimit := by
  refine FieldShape.readMembers_preserves (P := fun c => c.defaultLimit = default.defaultLimit)
    ?_ out rfl read
  intro f mem other n change given s kept
  simp only [List.mem_cons, List.not_mem_nil, or_false] at mem
  rcases mem with rfl | rfl | rfl | rfl | rfl | rfl | rfl
  · exact absurd rfl other
  all_goals
    obtain ⟨value, rfl⟩ := FieldShape.exists_of_optional given
    exact kept

theorem maxLimit_of_left_out (out : ∀ m ∈ members, m.1 ≠ .ok "max_limit")
    (read : shape (.object members ending) = .ok c) : c.maxLimit = default.maxLimit := by
  refine FieldShape.readMembers_preserves (P := fun c => c.maxLimit = default.maxLimit)
    ?_ out rfl read
  intro f mem other n change given s kept
  simp only [List.mem_cons, List.not_mem_nil, or_false] at mem
  rcases mem with rfl | rfl | rfl | rfl | rfl | rfl | rfl
  · obtain ⟨value, rfl⟩ := FieldShape.exists_of_optional given
    exact kept
  · exact absurd rfl other
  all_goals
    obtain ⟨value, rfl⟩ := FieldShape.exists_of_optional given
    exact kept

theorem limitFits_iff_of_left_out (read : shape (.object members ending) = .ok c) :
    ((∀ m ∈ members, m.1 ≠ .ok "default_limit") → (c.LimitFits ↔ 20 ≤ c.maxLimit)) ∧
      ((∀ m ∈ members, m.1 ≠ .ok "max_limit") →
        (c.LimitFits ↔ 0 < c.defaultLimit ∧ c.defaultLimit ≤ 200)) := by
  constructor
  · intro out
    have size : c.defaultLimit = 20 := defaultLimit_of_left_out out read
    simp [LimitFits, size]
  · intro out
    have most : c.maxLimit = 200 := maxLimit_of_left_out out read
    simp [LimitFits, most]

end LeftOut

end Config

namespace SearchOptions

variable {o : SearchOptions} {c : Config}

/-- The text and the fields of the options pass the bounds on requests, and the page size is left to
the configuration. -/
structure LeavesLimit (o : SearchOptions) : Prop where
  unset : o.limit = none
  short : o.query.utf8ByteSize ≤ Request.maxLength
  named : ∀ f ∈ o.fields, Text.isBlankText f.toList = false

theorem LeavesLimit.refusal?_request (leaves : o.LeavesLimit) :
    (o.request c.defaultLimit).refusal? c.maxLimit =
      if c.LimitFits then none else some (.limitOutOfRange c.maxLimit) := by
  have short : ¬ Request.maxLength < o.query.utf8ByteSize := Nat.not_lt.mpr leaves.short
  have named : o.fields.any (fun f => Text.isBlankText f.toList) = false := by
    simpa using leaves.named
  have size : o.limit.getD c.defaultLimit = c.defaultLimit := by simp [leaves.unset]
  simp only [Request.refusal?, request, size, named, if_neg short]
  by_cases fits : c.LimitFits
  · obtain ⟨pos, le⟩ := fits
    have inside : ¬ (c.defaultLimit = 0 ∨ c.maxLimit < c.defaultLimit) := by omega
    simp [Config.LimitFits, pos, le, inside]
  · have outside : c.defaultLimit = 0 ∨ c.maxLimit < c.defaultLimit := by
      simp only [Config.LimitFits] at fits
      omega
    simp [fits, outside]

theorem LeavesLimit.validate_request (leaves : o.LeavesLimit) :
    (o.request c.defaultLimit).validate c.maxLimit =
      if c.LimitFits then .ok ()
      else .error (.invalidInput (Request.Refusal.limitOutOfRange c.maxLimit).message) := by
  rw [Request.validate, leaves.refusal?_request]
  by_cases fits : c.LimitFits
  · simp [fits]
  · simp [fits]

end SearchOptions

/-- A search fails by its store or not at all. -/
theorem Engine.exists_store_of_search {e : Engine} {s : Source} {q : Request} {f : SearchError}
    (failed : e.search s q = .error f) : ∃ cause, f = .store cause := by
  unfold search at failed
  dsimp only at failed
  split at failed
  · cases failed
  · split at failed
    · cases failed
      exact ⟨_, rfl⟩
    · cases failed

namespace Command

variable {env : String → Option String} {read : String → Config.FileState} {args : List String}
  {i : Invocation} {account : Option String} {o : SearchOptions} {c : Config}

def configOf (account : Option String) (env : String → Option String)
    (read : String → Config.FileState) (i : Invocation) : Except Config.Failure Config :=
  match i.config <|> defaultConfigPath? account env with
  | some path => Config.load path (read path)
  | none => .error .noDirectory

def storeOf (c : Config) (read : String → Config.FileState) (i : Invocation) :
    Except String Store :=
  loadStore ((i.store <|> c.storePath).map fun path => (path, read path))

def outcomeOf (c : Config) (store : Store) (command : Command) : Outcome :=
  match answer c store command with
  | .ok j => if aborts c store command then .aborted else .printed j
  | .error e => .failed e

theorem run_of_configOf (line : readLine env args = .run i)
    (loaded : configOf account env read i = .ok c) :
    runFor (m := Id) account env read args =
      match storeOf c read i with
      | .error message => .badFile message
      | .ok store => outcomeOf c store i.command := by
  have whole : runFor (m := Id) account env read args = perform (m := Id) account env read i := by
    rw [runFor, line]
  rw [whole]
  unfold configOf at loaded
  unfold perform storeOf outcomeOf
  cases named : i.config <|> defaultConfigPath? account env with
  | none =>
    rw [named] at loaded
    cases loaded
  | some path =>
    rw [named] at loaded
    simp only [bind, pure, loaded]
    cases i.store <|> c.storePath <;> rfl

theorem outcomeOf_of_refused {store : Store} {e : SearchError}
    (refused : (o.request c.defaultLimit).validate c.maxLimit = .error e) :
    outcomeOf c store (.search o) = .failed e := by
  simp [outcomeOf, answer, refused, bind, Except.bind]

theorem outcomeOf_of_valid {store : Store}
    (valid : (o.request c.defaultLimit).validate c.maxLimit = .ok ()) (reason : String) :
    outcomeOf c store (.search o) ≠ .failed (.invalidInput reason) := by
  intro failed
  cases searched : (engineOf c).search store.source (o.request c.defaultLimit) with
  | error f =>
    obtain ⟨cause, rfl⟩ := Engine.exists_store_of_search searched
    simp [outcomeOf, answer, valid, searched, bind, Except.bind] at failed
  | ok page =>
    simp only [outcomeOf, answer, valid, searched, bind, Except.bind, pure, Except.pure] at failed
    split at failed <;> cases failed

theorem toOption_eq_some_iff {ε α : Type} {x : Except ε α} {a : α} :
    x.toOption = some a ↔ x = .ok a := by
  cases x with
  | error e => simp [Except.toOption]
  | ok b => simp [Except.toOption]

/-- Whether a search that leaves the page size to the configuration can be made. Its request passes
the bounds just if the default size does; the run is then never ended as invalid input, and else it
always is, once the store is read. -/
theorem default_limit_accepted_iff (line : readLine env args = .run i)
    (asks : i.command = .search o) (loaded : configOf account env read i = .ok c)
    (leaves : o.LeavesLimit) :
    ((o.request c.defaultLimit).validate c.maxLimit = .ok () ↔ c.LimitFits) ∧
      (c.LimitFits → ∀ reason,
        runFor (m := Id) account env read args ≠ .failed (.invalidInput reason)) ∧
      (¬ c.LimitFits → ∀ store, storeOf c read i = .ok store →
        runFor (m := Id) account env read args =
          .failed (.invalidInput ("Limit must be between 1 and " ++ toString c.maxLimit))) := by
  have validate := leaves.validate_request (c := c)
  have whole := run_of_configOf line loaded
  rw [asks] at whole
  refine ⟨?_, ?_, ?_⟩
  · rw [validate]
    by_cases fits : c.LimitFits
    · simp [fits]
    · simp [fits]
  · intro fits reason failed
    rw [if_pos fits] at validate
    rw [whole] at failed
    split at failed
    · cases failed
    · exact outcomeOf_of_valid validate reason failed
  · intro misfit store read
    rw [if_neg misfit] at validate
    rw [whole, read]
    exact outcomeOf_of_refused validate

/-- A file that gives only a greatest size of 50. -/
theorem default_limit_accepted_iff_partial_file :
    let env : String → Option String := fun _ => none
    let read : String → Config.FileState := fun path =>
      if path = "c.json" then .holds "\x7b\"max_limit\": 50\x7d" else .missing
    let args := ["--config", "c.json", "search", "-q", "ann"]
    let o : SearchOptions := ⟨"ann", none, [], [], none, 0, false, false, false⟩
    let c : Config := { Config.default with maxLimit := 50 }
    readLine env args = .run ⟨.search o, some "c.json", none⟩ ∧
      configOf none env read ⟨.search o, some "c.json", none⟩ = .ok c ∧ o.LeavesLimit ∧ c.LimitFits ∧
      (o.request c.defaultLimit).validate c.maxLimit = .ok () ∧
      ∀ reason, run (m := Id) env read args ≠ .failed (.invalidInput reason) := by
  intro env read args o c
  have line : readLine env args = .run ⟨.search o, some "c.json", none⟩ := by decide +kernel
  have loaded : configOf none env read ⟨.search o, some "c.json", none⟩ = .ok c :=
    toOption_eq_some_iff.mp (by decide +kernel)
  have leaves : o.LeavesLimit := ⟨rfl, by decide +kernel, by decide⟩
  have fits : c.LimitFits := by decide
  obtain ⟨accepted, notRefused, -⟩ := default_limit_accepted_iff line rfl loaded leaves
  exact ⟨line, loaded, leaves, fits, accepted.mpr fits, notRefused fits⟩

/-- A file that gives only a greatest size of 10 is taken, and then no search without a limit is. -/
theorem partial_file_refuses_search :
    let env : String → Option String := fun _ => none
    let read : String → Config.FileState := fun path =>
      if path = "c.json" then .holds "\x7b\"max_limit\": 10\x7d"
      else if path = "s.json" then
        .holds ("\x7b\"collections\": \x7b\"case-1\": [\x7b\"id\": \"p1\", " ++
          "\"profile\": \x7b\"core\": \x7b\"name\": \"Ann\"\x7d\x7d\x7d]\x7d\x7d")
      else .missing
    let args := ["--config", "c.json", "--store", "s.json", "search", "-q", "ann"]
    let o : SearchOptions := ⟨"ann", none, [], [], none, 0, false, false, false⟩
    let i : Invocation := ⟨.search o, some "c.json", some "s.json"⟩
    let c : Config := { Config.default with maxLimit := 10 }
    readLine env args = .run i ∧ configOf none env read i = .ok c ∧ o.LeavesLimit ∧
      (o.request c.defaultLimit).validate c.maxLimit ≠ .ok () ∧
      run (m := Id) env read args =
        .failed (.invalidInput "Limit must be between 1 and 10") := by
  intro env read args o i c
  have line : readLine env args = .run i := by decide +kernel
  have loaded : configOf none env read i = .ok c :=
    toOption_eq_some_iff.mp (by decide +kernel)
  have leaves : o.LeavesLimit := ⟨rfl, by decide +kernel, by decide⟩
  have told : (Request.Refusal.limitOutOfRange c.maxLimit).message =
      "Limit must be between 1 and 10" := by decide +kernel
  have refused : (o.request c.defaultLimit).validate c.maxLimit =
      .error (.invalidInput "Limit must be between 1 and 10") := by
    rw [leaves.validate_request, if_neg (by decide), told]
  have opened : (storeOf c read i).isOk = true := by decide +kernel
  refine ⟨line, loaded, leaves, ?_, ?_⟩
  · rw [refused]
    nofun
  · rw [run, run_of_configOf line loaded]
    cases stored : storeOf c read i with
    | error message => rw [stored] at opened; cases opened
    | ok store => exact outcomeOf_of_refused refused

end Command

end Dossier
