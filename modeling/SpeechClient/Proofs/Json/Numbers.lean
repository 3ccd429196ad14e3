import SpeechClient.Json.Read
import SpeechClient.Proofs.Number.Order

/-!
# The numbers in a JSON value

The numbers in a value that is read from a text are integers of 64 bits and the rounded values of
quotients.  So none of them is a NaN.

- `Json.Stored`: the values with such numbers only; all that are read are of this kind.
- `Json.NaNFree`: the values without a NaN in them.
-/

namespace SpeechClient

def JsonNumber.toDouble : JsonNumber → Double
  | .natural n => .ofNat n
  | .negative i => .ofInt i
  | .double x => x

/-- The number is of the kind that its constructor is for: an integer fits its word of 64 bits, and
anything else is not a NaN. -/
def JsonNumber.Stored : JsonNumber → Prop
  | .natural n => n < UInt64.size
  | .negative i => -2 ^ 63 ≤ i ∧ i < 0
  | .double x => x.isNaN = false

theorem JsonNumber.Stored.isNaN_toDouble {n : JsonNumber} (stored : n.Stored) :
    n.toDouble.isNaN = false := by
  cases n with
  | natural n => exact Double.isNaN_ofRatio ..
  | negative i => exact Double.isNaN_ofRatio ..
  | double x => exact stored

namespace Json

/-- The number is the value, or stands anywhere in it. -/
inductive Holds (n : JsonNumber) : Json → Prop where
  | here : Holds n (.number n)
  | element {e : Json} {elements : List Json} (member : e ∈ elements) (inside : Holds n e) :
      Holds n (.array elements)
  | member {name : String} {v : Json} {members : List (String × Json)}
      (member : (name, v) ∈ members) (inside : Holds n v) : Holds n (.object members)

def NaNFree (j : Json) : Prop :=
  ∀ n, Holds n j → n.toDouble.isNaN = false

/-- Every number in the value is of the kind that its constructor is for. -/
def Stored (j : Json) : Prop :=
  ∀ n : JsonNumber, Holds n j → n.Stored

variable {j : Json} {n : JsonNumber}

theorem holds_of_get? {name : String} {v : Json} (found : j.get? name = some v)
    (inside : Holds n v) : Holds n j := by
  cases j with
  | object members =>
    obtain ⟨before, after, rfl, -⟩ := List.lookup_eq_some_iff.1 found
    have member : (name, v) ∈ before ++ (name, v) :: after := by simp
    exact .member member inside
  | _ => cases found

theorem holds_of_mem_elementsOf {name : String} {e : Json} (member : e ∈ j.elementsOf name)
    (inside : Holds n e) : Holds n j := by
  unfold elementsOf at member
  cases found : j.get? name with
  | none => simp [found] at member
  | some v =>
    cases v with
    | array elements =>
      simp only [found, Option.bind_some, asArray?, Option.getD_some] at member
      exact holds_of_get? found (.element member inside)
    | _ => simp [found, asArray?] at member

namespace NaNFree

theorem of_get? (free : j.NaNFree) {name : String} {v : Json} (found : j.get? name = some v) :
    v.NaNFree :=
  fun n inside => free n (holds_of_get? found inside)

theorem of_mem_elementsOf (free : j.NaNFree) {name : String} {e : Json}
    (member : e ∈ j.elementsOf name) : e.NaNFree :=
  fun n inside => free n (holds_of_mem_elementsOf member inside)

end NaNFree

/-! ## Numerals -/

theorem isNaN_scaleDown {x : Double} (number : x.isNaN = false) (k : Nat) :
    (scaleDown x k).isNaN = false := by
  fun_induction scaleDown x k with
  | case1 => exact Double.isNaN_ofRatio ..
  | case2 => exact number
  | case3 x k _ _ after => exact after (Double.isNaN_ofRatio ..)

theorem isNaN_of_scale {significand : Nat} {exponent : Int} {x : Double}
    (scaled : scale significand exponent = some x) : x.isNaN = false := by
  have start : (Double.ofNat significand).isNaN = false := Double.isNaN_ofRatio ..
  unfold scale at scaled
  split at scaled
  · exact Option.some.inj scaled ▸ isNaN_scaleDown start _
  split at scaled
  · split at scaled
    · exact Option.some.inj scaled ▸ start
    · cases scaled
  extract_lets y at scaled
  split at scaled
  · cases scaled
  · exact Option.some.inj scaled ▸ Double.isNaN_ofRatio ..

theorem isNaN_of_toDouble? {n : NumeralParts} {significand dropped : Nat} {x : Double}
    (read : n.toDouble? significand dropped = some x) : x.isNaN = false := by
  have signed {y : Double} (number : y.isNaN = false)
      (same : some (if n.negative then y.neg else y) = some x) : x.isNaN = false := by
    rw [← Option.some.inj same]
    split
    · exact Double.isNaN_neg number
    · exact number
  simp only [NumeralParts.toDouble?, Option.bind_eq_bind, Option.pure_def] at read
  split at read
  · obtain ⟨y, small, same⟩ := Option.bind_eq_some_iff.1 read
    split at small
    · cases small
    · exact signed (Option.some.inj small ▸ by decide) same
  · obtain ⟨y, scaled, same⟩ := Option.bind_eq_some_iff.1 read
    exact signed (isNaN_of_scale scaled) same

theorem absorb_le {significand : Nat} (word : significand ≤ wordMax) (ds : List Nat) :
    (absorb significand ds).1 ≤ wordMax := by
  fun_induction absorb significand ds with
  | case1 => exact word
  | case2 significand d ds fits after => exact after fits
  | case3 => exact word

theorem stored_of_toNumber? {n : NumeralParts} {number : JsonNumber}
    (read : n.toNumber? = some number) : number.Stored := by
  have word := absorb_le (Nat.zero_le wordMax) n.whole
  unfold NumeralParts.toNumber? at read
  split at read
  next significand dropped absorbed =>
    rw [absorbed, wordMax] at word
    split at read
    · split at read
      · split at read
        · exact Option.some.inj read ▸ Double.isNaN_neg (Double.isNaN_ofRatio ..)
        next fits =>
          obtain rfl := Option.some.inj read
          have size : UInt64.size / 2 = 2 ^ 63 := by decide
          constructor <;> omega
      · obtain rfl := Option.some.inj read
        exact Nat.lt_of_le_pred (by decide) word
    · obtain ⟨x, scaled, rfl⟩ := Option.map_eq_some_iff.1 read
      exact isNaN_of_toDouble? scaled

/-! ## Values -/

theorem stored_array {elements : List Json} (stored : ∀ e ∈ elements, e.Stored) :
    (Json.array elements).Stored := by
  rintro n (_ | ⟨member, inside⟩)
  exact stored _ member n inside

theorem mem_insertMember {name : String} {value : Json} {members : List (String × Json)}
    {m : String × Json} (member : m ∈ insertMember name value members) :
    m = (name, value) ∨ m ∈ members := by
  induction members with
  | nil => simpa [insertMember] using member
  | cons first rest after =>
    rw [insertMember] at member
    split at member
    · simpa using member
    split at member
    · exact (List.mem_cons.1 member).imp id (List.mem_cons_of_mem _)
    · rcases List.mem_cons.1 member with rfl | member
      · exact .inr List.mem_cons_self
      · exact (after member).imp id (List.mem_cons_of_mem _)

theorem mem_of_mem_foldl_insertMember {members start : List (String × Json)} {m : String × Json}
    (member : m ∈ members.foldl (fun acc (name, value) => insertMember name value acc) start) :
    m ∈ start ∨ m ∈ members := by
  induction members generalizing start with
  | nil => exact .inl member
  | cons first rest after =>
    rcases after member with member | member
    · rcases mem_insertMember member with rfl | member
      · exact .inr List.mem_cons_self
      · exact .inl member
    · exact .inr (List.mem_cons_of_mem _ member)

theorem stored_ofMembers {members : List (String × Json)} (stored : ∀ m ∈ members, m.2.Stored) :
    (ofMembers members).Stored := by
  rintro n (_ | _ | ⟨member, inside⟩)
  obtain ⟨⟨⟩⟩ | member := mem_of_mem_foldl_insertMember member
  exact stored _ member n inside

/-- A text, `null`, `true` and `false` are read with no number in them. -/
theorem stored_of_leaf {α : Type} {found : Option α} {leaf : α → Json × Bytes} {v : Json}
    {rest : Bytes} (atomic : ∀ x n, ¬Holds n (leaf x).1)
    (read : found.map leaf = some (v, rest)) : v.Stored := by
  obtain ⟨x, -, same⟩ := Option.map_eq_some_iff.1 read
  intro n inside
  exact absurd (same ▸ inside) (atomic x n)

-- The readers call one another with less fuel, and so do the proofs about them.
mutual

theorem stored_of_readValue {fuel depth : Nat} {b rest : Bytes} {v : Json}
    (read : readValue fuel depth b = some (v, rest)) : v.Stored := by
  unfold readValue at read
  split at read
  · cases read
  · cases read
  next fuel x more _ =>
    split at read
    · exact stored_of_leaf nofun read
    split at read
    · split at read
      · cases read
      · exact stored_of_readFirstElement read
    split at read
    · split at read
      · cases read
      · exact stored_of_readFirstMember read
    split at read
    · exact stored_of_leaf nofun read
    split at read
    · exact stored_of_leaf nofun read
    split at read
    · exact stored_of_leaf nofun read
    split at read
    · obtain ⟨n, number, same⟩ := Option.map_eq_some_iff.1 read
      cases same
      rintro _ ⟨⟩
      exact stored_of_toNumber? number
    · cases read

theorem stored_of_readFirstElement {fuel depth : Nat} {b rest : Bytes} {v : Json}
    (read : readFirstElement fuel depth b = some (v, rest)) : v.Stored := by
  unfold readFirstElement at read
  split at read
  · cases read
  next fuel b _ =>
    split at read
    · cases read
      exact stored_array (List.forall_mem_nil _)
    split at read
    next first more value =>
      exact stored_of_readElements (by simpa using stored_of_readValue value) read
    · cases read

theorem stored_of_readElements {fuel depth : Nat} {before : List Json} {b rest : Bytes} {v : Json}
    (stored : ∀ e ∈ before, e.Stored) (read : readElements fuel depth before b = some (v, rest)) :
    v.Stored := by
  unfold readElements at read
  split at read
  · cases read
  · cases read
  next fuel x more _ =>
    split at read
    · cases read
      exact stored_array fun e member => stored e (List.mem_reverse.1 member)
    split at read
    · split at read
      next next after value =>
        refine stored_of_readElements ?_ read
        exact List.forall_mem_cons.2 ⟨stored_of_readValue value, stored⟩
      · cases read
    · cases read

theorem stored_of_readFirstMember {fuel depth : Nat} {b rest : Bytes} {v : Json}
    (read : readFirstMember fuel depth b = some (v, rest)) : v.Stored := by
  unfold readFirstMember at read
  split at read
  · cases read
  next fuel b _ =>
    split at read
    · cases read
      exact stored_ofMembers (List.forall_mem_nil _)
    split at read
    next first more member =>
      exact stored_of_readMembers (by simpa using stored_of_readMember member) read
    · cases read

theorem stored_of_readMembers {fuel depth : Nat} {before : List (String × Json)} {b rest : Bytes}
    {v : Json} (stored : ∀ m ∈ before, m.2.Stored)
    (read : readMembers fuel depth before b = some (v, rest)) : v.Stored := by
  unfold readMembers at read
  split at read
  · cases read
  · cases read
  next fuel x more _ =>
    split at read
    · cases read
      exact stored_ofMembers fun m member => stored m (List.mem_reverse.1 member)
    split at read
    · split at read
      next next after member =>
        refine stored_of_readMembers ?_ read
        exact List.forall_mem_cons.2 ⟨stored_of_readMember member, stored⟩
      · cases read
    · cases read

theorem stored_of_readMember {fuel depth : Nat} {b rest : Bytes} {m : String × Json}
    (read : readMember fuel depth b = some (m, rest)) : m.2.Stored := by
  unfold readMember at read
  split at read
  · cases read
  · cases read
  next fuel x more _ =>
    split at read
    · split at read
      · split at read
        · obtain ⟨⟨v, _⟩, value, same⟩ := Option.map_eq_some_iff.1 read
          cases same
          exact stored_of_readValue value
        · cases read
      · cases read
    · cases read

end

/-- All that is read from a text. -/
theorem stored_of_parse {text : Bytes} (read : parse text = some j) : j.Stored := by
  unfold parse at read
  split at read
  next v rest first =>
    split at read
    · cases read
      exact stored_of_readValue first
    · cases read
  · cases read

theorem Stored.nanFree (stored : j.Stored) : j.NaNFree :=
  fun n inside => (stored n inside).isNaN_toDouble

end Json

end SpeechClient
