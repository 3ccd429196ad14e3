import SpeechClient.Text.Bytes

/-!
# Headers

The headers of a frame: a finite map from keys to values, kept in ascending order of the keys'
octets.  That order is the one in which a frame is written, so two frames are equal exactly when
their headers are equal as lists.

- `get?_insert`: what a look-up finds after an insertion.
-/

namespace SpeechClient.Wire

/-- The header entries, each key once, in ascending order. -/
structure Headers where
  entries : List (Bytes × Bytes)
  ascending : entries.Pairwise (fun a b => a.1 < b.1)
  deriving DecidableEq

namespace Headers

def empty : Headers := ⟨[], .nil⟩

instance : Inhabited Headers := ⟨empty⟩

/-- The entries with `key` bound to `value`, in its place in the order. -/
def insertEntry (key value : Bytes) : List (Bytes × Bytes) → List (Bytes × Bytes)
  | [] => [(key, value)]
  | (k, v) :: rest =>
    if key < k then (key, value) :: (k, v) :: rest
    else if key = k then (key, value) :: rest
    else (k, v) :: insertEntry key value rest

theorem mem_insertEntry {key value : Bytes} {entries : List (Bytes × Bytes)} {e : Bytes × Bytes}
    (h : e ∈ insertEntry key value entries) : e = (key, value) ∨ e ∈ entries := by
  induction entries with
  | nil => simpa [insertEntry] using h
  | cons head tail ih =>
    obtain ⟨k, v⟩ := head
    rw [insertEntry] at h
    split at h
    · grind
    split at h
    · grind
    · rcases List.mem_cons.1 h with h | h
      · exact .inr (h ▸ List.mem_cons_self)
      · exact (ih h).imp id (List.mem_cons_of_mem _)

theorem ascending_insertEntry {key value : Bytes} {entries : List (Bytes × Bytes)}
    (h : entries.Pairwise (fun a b => a.1 < b.1)) :
    (insertEntry key value entries).Pairwise (fun a b => a.1 < b.1) := by
  induction entries with
  | nil => simp [insertEntry]
  | cons head tail ih =>
    obtain ⟨k, v⟩ := head
    obtain ⟨hhead, htail⟩ := List.pairwise_cons.1 h
    rw [insertEntry]
    split
    next hlt =>
      refine List.pairwise_cons.2 ⟨fun e he => ?_, h⟩
      rcases List.mem_cons.1 he with rfl | he
      · exact hlt
      · exact List.lt_trans hlt (hhead e he)
    split
    next _ heq =>
      subst heq
      exact List.pairwise_cons.2 ⟨hhead, htail⟩
    next hnlt hne =>
      have hgt : k < key := by grind
      refine List.pairwise_cons.2 ⟨fun e he => ?_, ih htail⟩
      rcases mem_insertEntry he with rfl | he
      · exact hgt
      · exact hhead e he

def insert (h : Headers) (key value : Bytes) : Headers :=
  ⟨insertEntry key value h.entries, ascending_insertEntry h.ascending⟩

def get? (h : Headers) (key : Bytes) : Option Bytes :=
  h.entries.lookup key

theorem lookup_cons_eq_ite (k k' v' : Bytes) (rest : List (Bytes × Bytes)) :
    ((k', v') :: rest).lookup k = if k = k' then some v' else rest.lookup k := by
  by_cases h : k = k' <;> simp [List.lookup_cons, h, beq_eq_false_iff_ne.2]

theorem lookup_insertEntry (key value k : Bytes) (entries : List (Bytes × Bytes)) :
    (insertEntry key value entries).lookup k =
      if k = key then some value else entries.lookup k := by
  induction entries with
  | nil => rw [insertEntry, lookup_cons_eq_ite]
  | cons head tail ih =>
    obtain ⟨k', v'⟩ := head
    rw [insertEntry]
    split
    · rw [lookup_cons_eq_ite]
    split
    next _ heq =>
      subst heq
      simp only [lookup_cons_eq_ite]
      split <;> rfl
    next _ hne =>
      simp only [lookup_cons_eq_ite, ih]
      by_cases h : k = k'
      · simp [h, Ne.symm hne]
      · simp [h]

/-- A look-up after an insertion finds the new value at its key and the old values elsewhere. -/
@[simp] theorem get?_insert (h : Headers) (key value k : Bytes) :
    (h.insert key value).get? k = if k = key then some value else h.get? k :=
  lookup_insertEntry key value k h.entries

@[simp] theorem get?_empty (k : Bytes) : empty.get? k = none := rfl

@[ext] theorem ext {a b : Headers} (h : a.entries = b.entries) : a = b := by
  cases a; cases b; cases h; rfl

end Headers

end SpeechClient.Wire
