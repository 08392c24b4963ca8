import Mathlib.Data.List.Basic
import Mathlib.Data.List.Nodup

namespace TriFusion.Library.Assignments

variable {κ κ' ν ν' : Type*} [BEq κ] [BEq κ']

/-- Two lists of assignments, newest first, stand for the same map. -/
def SameMap (m₁ m₂ : List (κ × ν)) : Prop := ∀ key, m₁.lookup key = m₂.lookup key

theorem SameMap.refl (m : List (κ × ν)) : SameMap m m := fun _ ↦ rfl

/-- Every entry of the source that has a place in the target is assigned there. -/
def merge (place : κ → Option κ') (convert : ν → ν') (source : List (κ × ν))
    (target : List (κ' × ν')) : List (κ' × ν') :=
  source.foldr (fun entry m ↦
    match place entry.1 with
    | none => m
    | some key => (key, convert entry.2) :: m) target

def Mentions (place : κ → Option κ') (source : List (κ × ν)) (key : κ') : Prop :=
  ∃ name value, place name = some key ∧ source.lookup name = some value

def Injective (place : κ → Option κ') : Prop :=
  ∀ name name' key, place name = some key → place name' = some key → name = name'

variable {place : κ → Option κ'} {convert : ν → ν'} {source : List (κ × ν)} [LawfulBEq κ']

omit [BEq κ] in
theorem lookup_merge_of_unplaced {key : κ'} (h : ∀ name, place name ≠ some key)
    (target : List (κ' × ν')) : (merge place convert source target).lookup key =
      target.lookup key := by
  induction source with
  | nil => rfl
  | cons entry source ih =>
    obtain ⟨name, value⟩ := entry
    cases hp : place name with
    | none => simpa only [merge, List.foldr_cons, hp] using ih
    | some other =>
      have hne : (key == other) = false := by
        rw [beq_eq_false_iff_ne]
        rintro rfl
        exact h name hp
      simpa only [merge, List.foldr_cons, hp, List.lookup_cons, hne, Bool.false_eq_true,
        if_false] using ih

variable [LawfulBEq κ]

theorem lookup_merge_of_placed (hi : Injective place) {name : κ} {key : κ'}
    (h : place name = some key) (target : List (κ' × ν')) :
    (merge place convert source target).lookup key =
      ((source.lookup name).map convert).or (target.lookup key) := by
  induction source with
  | nil => rfl
  | cons entry source ih =>
    obtain ⟨other, value⟩ := entry
    by_cases hn : name = other
    · subst hn
      simp only [merge, List.foldr_cons, h, List.lookup_cons, beq_self_eq_true,
        Option.map_some, Option.some_or]
    · have hne : (name == other) = false := beq_eq_false_iff_ne.mpr hn
      rw [List.lookup_cons, hne]
      cases hp : place other with
      | none => simpa only [merge, List.foldr_cons, hp] using ih
      | some key' =>
        have hk : (key == key') = false := by
          rw [beq_eq_false_iff_ne]
          rintro rfl
          exact hn (hi _ _ _ h hp)
        simpa only [merge, List.foldr_cons, hp, List.lookup_cons, hk] using ih

theorem lookup_merge_of_not_mentions (hi : Injective place) {key : κ'}
    (h : ¬ Mentions place source key) (target : List (κ' × ν')) :
    (merge place convert source target).lookup key = target.lookup key := by
  by_cases hp : ∃ name, place name = some key
  · obtain ⟨name, hp⟩ := hp
    have hn : source.lookup name = none := by
      cases hl : source.lookup name with
      | none => rfl
      | some value => exact absurd ⟨name, value, hp, hl⟩ h
    rw [lookup_merge_of_placed hi hp, hn]
    rfl
  · exact lookup_merge_of_unplaced (fun name hn ↦ hp ⟨name, hn⟩) target

variable (convert source)

/-- A merge changes nothing exactly when each entry with a place is there already. -/
theorem merge_same_iff (hi : Injective place) (target : List (κ' × ν')) :
    SameMap (merge place convert source target) target ↔
      ∀ name key value, place name = some key → source.lookup name = some value →
        target.lookup key = some (convert value) := by
  constructor
  · intro h name key value hp hl
    rw [← h key, lookup_merge_of_placed hi hp, hl]
    rfl
  · intro h key
    by_cases hm : Mentions place source key
    · obtain ⟨name, value, hp, hl⟩ := hm
      rw [lookup_merge_of_placed hi hp, hl, h name key value hp hl]
      rfl
    · exact lookup_merge_of_not_mentions hi hm target

theorem merge_agree_iff (hi : Injective place) (m₁ m₂ : List (κ' × ν')) :
    SameMap (merge place convert source m₁) (merge place convert source m₂) ↔
      ∀ key, ¬ Mentions place source key → m₁.lookup key = m₂.lookup key := by
  constructor
  · intro h key hm
    rw [← lookup_merge_of_not_mentions hi hm m₁, h key, lookup_merge_of_not_mentions hi hm]
  · intro h key
    by_cases hm : Mentions place source key
    · obtain ⟨name, value, hp, hl⟩ := hm
      rw [lookup_merge_of_placed hi hp, lookup_merge_of_placed hi hp, hl]
      rfl
    · rw [lookup_merge_of_not_mentions hi hm, lookup_merge_of_not_mentions hi hm, h key hm]

section Order

variable {convert source}

/-- The order goes once through every entry of the map. -/
def Enumerates (order m : List (κ × ν)) : Prop :=
  (order.map Prod.fst).Nodup ∧ ∀ key value, (key, value) ∈ order ↔ m.lookup key = some value

def entries : List (κ × ν) → List (κ × ν)
  | [] => []
  | entry :: rest => entry :: (entries rest).filter (fun other ↦ !(other.1 == entry.1))

theorem mem_entries {m : List (κ × ν)} {key : κ} {value : ν} :
    (key, value) ∈ entries m ↔ m.lookup key = some value := by
  induction m with
  | nil => simp [entries]
  | cons entry rest ih =>
    obtain ⟨name, found⟩ := entry
    rw [entries, List.mem_cons, List.mem_filter, ih]
    by_cases h : key = name
    · subst h
      simp [eq_comm]
    · rw [List.lookup_cons, beq_eq_false_iff_ne.mpr h]
      simp [h]

theorem enumerates_entries (m : List (κ × ν)) : Enumerates (entries m) m := by
  refine ⟨?_, fun key value ↦ mem_entries⟩
  induction m with
  | nil => exact List.nodup_nil
  | cons entry rest ih =>
    rw [entries, List.map_cons, List.nodup_cons]
    refine ⟨?_, ih.sublist (List.filter_sublist.map _)⟩
    intro h
    obtain ⟨other, ho, he⟩ := List.mem_map.mp h
    simpa [he] using (List.mem_filter.mp ho).2

omit [LawfulBEq κ] in
theorem Enumerates.perm {order order' m : List (κ × ν)} (h : Enumerates order m)
    (hp : order'.Perm order) : Enumerates order' m := by
  refine ⟨(hp.map Prod.fst).nodup_iff.mpr h.1, fun key value ↦ ?_⟩
  rw [hp.mem_iff]
  exact h.2 key value

theorem exists_enumerates_cons {m : List (κ × ν)} {name : κ} {value : ν}
    (h : m.lookup name = some value) : ∃ rest, Enumerates ((name, value) :: rest) m := by
  obtain ⟨before, after, he⟩ := List.append_of_mem (mem_entries.mpr h)
  refine ⟨before ++ after, (enumerates_entries m).perm ?_⟩
  rw [he]
  exact List.perm_middle.symm

omit [BEq κ] [LawfulBEq κ] in
theorem lookup_merge_cases (key : κ') (target : List (κ' × ν')) :
    (∃ entry ∈ source, place entry.1 = some key ∧
        (merge place convert source target).lookup key = some (convert entry.2)) ∨
      ((∀ entry ∈ source, place entry.1 ≠ some key) ∧
        (merge place convert source target).lookup key = target.lookup key) := by
  induction source with
  | nil => exact .inr ⟨fun _ h ↦ absurd h List.not_mem_nil, rfl⟩
  | cons entry source ih =>
    by_cases hp : place entry.1 = some key
    · left
      refine ⟨entry, List.mem_cons_self, hp, ?_⟩
      simp [merge, hp]
    · have hm : (merge place convert (entry :: source) target).lookup key =
          (merge place convert source target).lookup key := by
        cases ho : place entry.1 with
        | none => simp [merge, ho]
        | some other =>
          have hne : (key == other) = false := by
            rw [beq_eq_false_iff_ne]
            intro he
            exact hp (he ▸ ho)
          simp [merge, ho, List.lookup_cons, hne]
      rw [hm]
      rcases ih with ⟨found, hf, hk, hl⟩ | ⟨hn, hl⟩
      · exact .inl ⟨found, List.mem_cons_of_mem _ hf, hk, hl⟩
      · right
        refine ⟨?_, hl⟩
        intro other ho
        rcases List.mem_cons.mp ho with rfl | ho
        · exact hp
        · exact hn other ho

def Compatible (place : κ → Option κ') (convert : ν → ν') (m : List (κ × ν)) : Prop :=
  ∀ name name' key value value', place name = some key → place name' = some key →
    m.lookup name = some value → m.lookup name' = some value' → convert value = convert value'

/-- The order of a merge does not matter exactly when entries that meet agree. -/
theorem merge_order_free_iff (m : List (κ × ν)) (target : List (κ' × ν')) :
    (∀ order order', Enumerates order m → Enumerates order' m →
        SameMap (merge place convert order target) (merge place convert order' target)) ↔
      Compatible place convert m := by
  constructor
  · intro h name name' key value value' hn hn' hl hl'
    obtain ⟨rest, hr⟩ := exists_enumerates_cons hl
    obtain ⟨rest', hr'⟩ := exists_enumerates_cons hl'
    have hs := h _ _ hr hr' key
    simpa [merge, hn, hn'] using hs
  · intro h order order' ho ho' key
    have hmem : ∀ entry, entry ∈ order ↔ entry ∈ order' := fun entry ↦
      (ho.2 entry.1 entry.2).trans (ho'.2 entry.1 entry.2).symm
    rcases lookup_merge_cases key target with ⟨entry, hm, hp, hl⟩ | ⟨hn, hl⟩ <;>
      rcases lookup_merge_cases key target with ⟨entry', hm', hp', hl'⟩ | ⟨hn', hl'⟩
    · rw [hl, hl']
      exact congrArg some (h _ _ _ _ _ hp hp' ((ho.2 _ _).mp hm) ((ho'.2 _ _).mp hm'))
    · exact absurd hp (hn' entry ((hmem entry).mp hm))
    · exact absurd hp' (hn entry' ((hmem entry').mpr hm'))
    · rw [hl, hl']

end Order

end TriFusion.Library.Assignments
