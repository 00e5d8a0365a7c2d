import Dossier.Proofs.Dict
import Dossier.Proofs.Json.Document

/-!
Shapes that undo a form: what is written in the form is read back in the shape. Lists, dictionaries
and values that may be null inherit this from their parts, and records are read member by member.
-/

namespace Dossier

namespace Node

theorem ofItems_eq_map (items : List Json) : ofItems items = items.map ofJson := by
  induction items with
  | nil => rfl
  | cons j rest ih => rw [ofItems, ih, List.map_cons]

theorem ofMembers_eq_map (members : List (String × Json)) :
    ofMembers members = members.map fun m => (.ok m.1, ofJson m.2) := by
  induction members with
  | nil => rfl
  | cons m rest ih => rw [ofMembers, ih, List.map_cons]

end Node

namespace Shape

variable {α : Type} {s : Shape α} {form : α → Json} {a : α}

def Reads (s : Shape α) (form : α → Json) (a : α) : Prop := s (Node.ofJson (form a)) = .ok a

theorem bind_eq_ok_iff {β : Type} {x : Except Fault α} {f : α → Except Fault β} {b : β} :
    x >>= f = .ok b ↔ ∃ a, x = .ok a ∧ f a = .ok b := by
  constructor
  · intro read
    cases x with
    | error fault => cases read
    | ok a => exact ⟨a, rfl, read⟩
  · rintro ⟨a, rfl, read⟩
    exact read

theorem eq_ok_of_readText {cs : List Char} (read : s.readText cs = .ok a) :
    s (Document.read cs).root = .ok a := by
  obtain ⟨value, shaped, read⟩ := bind_eq_ok_iff.mp read
  split at read
  · cases read
  · cases read
    exact shaped

theorem reads_text (t : String) : text.Reads .text t := by
  rw [Reads, Node.ofJson]
  rfl

theorem reads_bool (b : Bool) : bool.Reads .bool b := by
  rw [Reads, Node.ofJson]
  rfl

theorem reads_count {n : Nat} (fits : n < Number.limit) : count.Reads .ofNat n := by
  have within : (decide (0 ≤ (n : Int)) && decide ((n : Int) < Number.limit)) = true := by
    simpa using fits
  rw [Reads, Json.ofNat, Node.ofJson, count, if_pos within, Int.toNat_natCast]

theorem mapM_of_forall {β : Type} {read : β → Except Fault α} {write : α → β} {as : List α}
    (each : ∀ a ∈ as, read (write a) = .ok a) : (as.map write).mapM read = .ok as := by
  induction as with
  | nil => rfl
  | cons a rest ih =>
    obtain ⟨first, others⟩ := List.forall_mem_cons.mp each
    rw [List.map_cons, List.mapM_cons, first, ih others]
    rfl

theorem Reads.list {as : List α} (each : ∀ a ∈ as, s.Reads form a) :
    s.list.Reads (fun as => .array (as.map form)) as := by
  have items : (as.map (Node.ofJson ∘ form)).mapM s = .ok as := mapM_of_forall each
  rw [Reads, Node.ofJson, Node.ofItems_eq_map, List.map_map]
  simp only [Shape.list, items]
  rfl

theorem dict_object (s : Shape α) (members : List (Key × Node)) :
    s.dict (.object members none) =
      (members.mapM fun m => do return ((← m.1), ← s m.2)) >>= fun entries =>
        .ok (Dict.ofList entries) :=
  rfl

theorem Reads.dict {d : Dict α} (each : ∀ e ∈ d.entries, s.Reads form e.2) :
    s.dict.Reads (.ofDict form) d := by
  rw [Reads, Json.ofDict, Node.ofJson, Node.ofMembers_eq_map, List.map_map, dict_object,
    mapM_of_forall]
  · exact congrArg Except.ok d.ofList_entries
  · intro e mem
    have value : s (Node.ofJson (form e.2)) = .ok e.2 := each e mem
    simp only [Function.comp_apply, value]
    rfl

theorem Reads.nullable (value : s.Reads form a) (shown : Node.ofJson (form a) ≠ .null) :
    s.nullable (Node.ofJson (form a)) = .ok (some a) := by
  have value : s (Node.ofJson (form a)) = .ok a := value
  unfold Shape.nullable
  split
  · rename_i null
    exact absurd null shown
  · rw [value]
    rfl

end Shape

namespace FieldShape

variable {σ α : Type} {fields : List (FieldShape σ)} {seen : List String} {state : σ}
  {name : String} {n : Node} {s : Shape α} {a : α}

/-- A member is read by the field of its name, unless that was read before. -/
theorem readMembers_cons {f : FieldShape σ} {change : σ → σ}
    (found : fields.find? (·.name = name) = some f) (new : seen.contains name = false)
    (read : f.read n = .ok change) (ending : Option Break) (rest : List (Key × Node)) :
    readMembers fields ending seen state ((.ok name, n) :: rest) =
      readMembers fields ending (name :: seen) (change state) rest := by
  rw [readMembers]
  simp only [bind, Except.bind, found, new, read]
  rfl

theorem readMembers_required {set : α → σ → σ}
    (found : fields.find? (·.name = name) = some (.required name s set))
    (new : seen.contains name = false) (read : s n = .ok a) (ending : Option Break)
    (rest : List (Key × Node)) :
    readMembers fields ending seen state ((.ok name, n) :: rest) =
      readMembers fields ending (name :: seen) (set a state) rest :=
  readMembers_cons found new (congrArg (Except.map set) read) ending rest

theorem readMembers_placed {set : Option α → σ → σ}
    (found : fields.find? (·.name = name) = some (.placed name s set))
    (new : seen.contains name = false) (read : s.nullable n = .ok (some a)) (ending : Option Break)
    (rest : List (Key × Node)) :
    readMembers fields ending seen state ((.ok name, n) :: rest) =
      readMembers fields ending (name :: seen) (set (some a) state) rest :=
  readMembers_cons found new (congrArg (Except.map set) read) ending rest

theorem readMembers_nil
    (complete : (fields.all fun f => f.mayOmit || seen.contains f.name) = true) :
    readMembers fields none seen state [] = .ok state := by
  rw [readMembers, if_pos complete]
  rfl

theorem exists_of_optional {set : α → σ → σ} {change : σ → σ}
    (read : (optional name s set).read n = .ok change) : ∃ value, change = set value := by
  change (s n).map set = .ok change at read
  cases given : s n with
  | error fault => rw [given] at read; cases read
  | ok value => rw [given] at read; cases read; exact ⟨value, rfl⟩

theorem readMembers_cons_cases {ending : Option Break} {m : Key × Node} {rest : List (Key × Node)}
    {result : σ} (read : readMembers fields ending seen state (m :: rest) = .ok result) :
    (∃ name, m.1 = .ok name ∧ readMembers fields ending seen state rest = .ok result) ∨
      ∃ f ∈ fields, ∃ change, m.1 = .ok f.name ∧ f.read m.2 = .ok change ∧
        readMembers fields ending (f.name :: seen) (change state) rest = .ok result := by
  obtain ⟨key, n⟩ := m
  rw [readMembers] at read
  obtain ⟨name, keyed, read⟩ := Shape.bind_eq_ok_iff.mp read
  split at read
  · obtain ⟨-, -, read⟩ := Shape.bind_eq_ok_iff.mp read
    exact .inl ⟨name, keyed, read⟩
  · rename_i f found
    have named : f.name = name := by simpa using List.find?_some found
    split at read
    · cases read
    · obtain ⟨change, given, read⟩ := Shape.bind_eq_ok_iff.mp read
      rw [← named] at keyed read
      exact .inr ⟨f, List.mem_of_find?_eq_some found, change, keyed, given, read⟩

/-- What the fields but one keep as it is holds of the record that is read, if that one is left
out. -/
theorem readMembers_preserves {P : σ → Prop} {left : String}
    (keeps : ∀ f ∈ fields, f.name ≠ left → ∀ n change, f.read n = .ok change →
      ∀ s, P s → P (change s))
    {ending : Option Break} {members : List (Key × Node)} {result : σ}
    (out : ∀ m ∈ members, m.1 ≠ .ok left) (start : P state)
    (read : readMembers fields ending seen state members = .ok result) : P result := by
  induction members generalizing seen state with
  | nil =>
    rw [readMembers] at read
    obtain ⟨-, -, read⟩ := Shape.bind_eq_ok_iff.mp read
    split at read
    · cases read
      exact start
    · cases read
  | cons m rest ih =>
    obtain ⟨other, out⟩ := List.forall_mem_cons.mp out
    rcases readMembers_cons_cases read with ⟨-, -, read⟩ | ⟨f, mem, change, keyed, given, read⟩
    · exact ih out start read
    · have apart : f.name ≠ left := fun same => other (same ▸ keyed)
      exact ih out (keeps f mem apart m.2 change given state start) read

end FieldShape

end Dossier
