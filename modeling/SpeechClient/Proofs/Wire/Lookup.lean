import SpeechClient.Wire.Headers

/-!
# Headers by their look-ups

Headers are a list in ascending order of the keys, but a reader only looks keys up.  Both views
agree: an entry is what a look-up finds (`get?_eq_some_iff`), and headers with the same look-ups are
the same (`ext_get?`).
-/

namespace SpeechClient.Wire.Headers

theorem lookup_eq_some_iff {entries : List (Bytes × Bytes)} {key value : Bytes}
    (ascending : entries.Pairwise fun a b => a.1 < b.1) :
    entries.lookup key = some value ↔ (key, value) ∈ entries := by
  induction entries with
  | nil => simp
  | cons head tail ih =>
    obtain ⟨k, v⟩ := head
    obtain ⟨before, ascending⟩ := List.pairwise_cons.1 ascending
    rw [lookup_cons_eq_ite, List.mem_cons, Prod.mk.injEq]
    by_cases same : key = k
    · subst same
      have absent : (key, value) ∉ tail := fun member => List.lt_irrefl key (before _ member)
      simp [absent, eq_comm]
    · simp [same, ih ascending]

theorem get?_eq_some_iff {h : Headers} {key value : Bytes} :
    h.get? key = some value ↔ (key, value) ∈ h.entries :=
  lookup_eq_some_iff h.ascending

/-- Headers with the same look-ups are the same. -/
theorem ext_get? {a b : Headers} (same : ∀ key, a.get? key = b.get? key) : a = b := by
  have distinct : ∀ h : Headers, h.entries.Nodup := by
    intro h
    apply h.ascending.imp
    rintro x y less rfl
    exact List.lt_irrefl x.1 less
  have members : ∀ e, e ∈ a.entries ↔ e ∈ b.entries := by
    rintro ⟨key, value⟩
    rw [← get?_eq_some_iff, same, get?_eq_some_iff]
  have permutation := (List.perm_ext_iff_of_nodup (distinct a) (distinct b)).2 members
  -- A list in ascending order is determined by its members.
  have noCycle : ∀ x y : Bytes × Bytes, x ∈ a.entries → y ∈ b.entries → x.1 < y.1 → y.1 < x.1 →
      x = y := fun x _ _ _ less greater => (List.lt_irrefl x.1 (List.lt_trans less greater)).elim
  exact ext (permutation.eq_of_pairwise noCycle a.ascending b.ascending)

end SpeechClient.Wire.Headers
