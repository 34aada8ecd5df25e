/-
This file is about lists to which elements are added unless their key is known.

Of several elements with one key only the first one gets into the list, and none if the list had
the key before. What was in the list stays in front, and no element comes twice.
-/

import Mathlib.Data.List.Induction
import Mathlib.Data.List.Nodup

namespace KeyedLists

universe u v

variable {Element : Type u} {Key : Type v} [DecidableEq Key] (key : Element → Key)

/-- Adds the element at the end, unless the list has its key. -/
def add (list : List Element) (new : Element) : List Element :=
  if list.any fun other => key other = key new then list else list ++ [new]

/-- Adds the elements one after the other. -/
def addAll (list news : List Element) : List Element := news.foldl (add key) list

/-- The element is the first one of its key among the new ones, and the list has not the key. -/
def FirstOfKey (list news : List Element) (new : Element) : Prop :=
  (∀ other ∈ list, key other ≠ key new) ∧
    ∃ first last, news = first ++ new :: last ∧ ∀ other ∈ first, key other ≠ key new

variable {key} {list news : List Element} {new : Element}

theorem any_iff {new : Element} :
    (list.any fun other => key other = key new) = true ↔
      ∃ other ∈ list, key other = key new := by
  simp only [List.any_eq_true, decide_eq_true_eq]

theorem mem_add {element : Element} :
    element ∈ add key list new ↔
      element ∈ list ∨ (element = new ∧ ∀ other ∈ list, key other ≠ key new) := by
  unfold add
  split
  · rename_i known
    obtain ⟨other, member, same⟩ := any_iff.mp known
    exact ⟨.inl, fun either => either.resolve_right fun both => both.2 other member same⟩
  · rename_i unknown
    rw [List.mem_append, List.mem_singleton]
    refine or_congr Iff.rfl (iff_self_and.mpr fun _ other member same => unknown ?_)
    exact any_iff.mpr ⟨other, member, same⟩

theorem addAll_append_singleton (list news : List Element) (new : Element) :
    addAll key list (news ++ [new]) = add key (addAll key list news) new := by
  rw [addAll, List.foldl_append]
  rfl

theorem prefix_addAll (list news : List Element) : list <+: addAll key list news := by
  induction news using List.reverseRecOn with
  | nil => exact List.prefix_rfl
  | append_singleton news new inductionHypothesis =>
      rw [addAll_append_singleton, add]
      split
      · exact inductionHypothesis
      · exact inductionHypothesis.trans (List.prefix_append _ _)

/-- The keys of the list are those that it had and those of the new elements. -/
theorem exists_key_addAll {wanted : Key} :
    (∃ element ∈ addAll key list news, key element = wanted) ↔
      (∃ element ∈ list, key element = wanted) ∨ ∃ element ∈ news, key element = wanted := by
  induction news using List.reverseRecOn with
  | nil => simp only [addAll, List.foldl_nil, List.not_mem_nil, false_and, exists_false, or_false]
  | append_singleton news new inductionHypothesis =>
      have added : (∃ element ∈ add key (addAll key list news) new, key element = wanted) ↔
          (∃ element ∈ addAll key list news, key element = wanted) ∨ key new = wanted := by
        constructor
        · rintro ⟨element, member, same⟩
          rcases mem_add.mp member with old | ⟨rfl, -⟩
          · exact .inl ⟨element, old, same⟩
          · exact .inr same
        · rintro (⟨element, member, same⟩ | same)
          · exact ⟨element, mem_add.mpr (.inl member), same⟩
          · by_cases known : ∃ other ∈ addAll key list news, key other = key new
            · obtain ⟨other, member, sameKey⟩ := known
              exact ⟨other, mem_add.mpr (.inl member), sameKey.trans same⟩
            · exact ⟨new, mem_add.mpr (.inr ⟨rfl, fun other member sameKey =>
                known ⟨other, member, sameKey⟩⟩), same⟩
      rw [addAll_append_singleton, added, inductionHypothesis, or_assoc]
      simp only [List.mem_append, List.mem_singleton, or_and_right, exists_or, exists_eq_left]

/-- The elements of the list are those that it had and the first ones of new keys. -/
theorem mem_addAll {element : Element} :
    element ∈ addAll key list news ↔ element ∈ list ∨ FirstOfKey key list news element := by
  induction news using List.reverseRecOn with
  | nil =>
      refine ⟨.inl, fun either => either.resolve_right ?_⟩
      rintro ⟨-, first, last, split, -⟩
      exact absurd split (List.append_ne_nil_of_right_ne_nil _ (List.cons_ne_nil _ _)).symm
  | append_singleton news new inductionHypothesis =>
      rw [addAll_append_singleton, mem_add, inductionHypothesis, or_assoc]
      refine or_congr Iff.rfl ?_
      constructor
      · rintro (⟨unknown, first, last, rfl, earlier⟩ | ⟨rfl, unknown⟩)
        · refine ⟨unknown, first, last ++ [new], ?_, earlier⟩
          rw [List.append_assoc, List.cons_append]
        · have noKey := not_or.mp (mt exists_key_addAll.mpr
            (fun ⟨other, member, same⟩ => unknown other member same))
          refine ⟨fun other member same => noKey.1 ⟨other, member, same⟩, news, [], rfl,
            fun other member same => noKey.2 ⟨other, member, same⟩⟩
      · rintro ⟨unknown, first, last, split, earlier⟩
        rcases List.eq_nil_or_concat last with rfl | ⟨others, final, rfl⟩
        · obtain ⟨rfl, same⟩ := List.append_inj' split rfl
          obtain rfl := (List.cons.inj same).1
          refine .inr ⟨rfl, fun other member same => ?_⟩
          rcases exists_key_addAll.mp ⟨other, member, same⟩ with
            ⟨old, isOld, sameKey⟩ | ⟨old, isOld, sameKey⟩
          · exact unknown old isOld sameKey
          · exact earlier old isOld sameKey
        · rw [List.concat_eq_append, ← List.cons_append, ← List.append_assoc] at split
          obtain ⟨rfl, -⟩ := List.append_inj' split rfl
          exact .inl ⟨unknown, first, others, rfl, earlier⟩

theorem nodup_addAll (distinct : list.Nodup) : (addAll key list news).Nodup := by
  induction news using List.reverseRecOn with
  | nil => exact distinct
  | append_singleton news new inductionHypothesis =>
      rw [addAll_append_singleton, add]
      split
      · exact inductionHypothesis
      · rename_i unknown
        refine List.nodup_append'.mpr
          ⟨inductionHypothesis, List.nodup_singleton new, fun element old isNew => unknown ?_⟩
        rw [List.mem_singleton.mp isNew] at old
        exact any_iff.mpr ⟨new, old, rfl⟩

end KeyedLists
