/-
This file is about texts in which keys stand for values.

A key is a mark and further symbols without the mark, so two occurrences of keys in a text never
overlap, and a substitution can be computed for the parts of a text on both sides of a mark. The
keys of one text are substituted at once, or one after the other. The second way gives the same
text exactly if no value, together with what stands around it, makes a new occurrence of a key that
is substituted later.
-/

import Mathlib.Data.List.Infix
import Mathlib.Data.List.Pairwise
import Mathlib.Tactic.Linarith

namespace Placeholders

universe u

variable {Symbol : Type u} {mark : Symbol}

/-- A mark and symbols that are not the mark. -/
structure Key (mark : Symbol) where
  tail : List Symbol
  free : mark ∉ tail

def Key.text (key : Key mark) : List Symbol := mark :: key.tail

/-- Neither key begins with the other. -/
def Key.Separate (key other : Key mark) : Prop :=
  ¬ key.text <+: other.text ∧ ¬ other.text <+: key.text

theorem Key.Separate.symm {key other : Key mark} (separate : key.Separate other) :
    other.Separate key :=
  ⟨separate.2, separate.1⟩

/-! ### Occurrences at a place -/

section Prefixes

variable {key other : Key mark} {symbol : Symbol} {before after : List Symbol}

/-- No key begins at a symbol other than the mark. -/
theorem Key.not_begins (different : symbol ≠ mark) : ¬ key.text <+: symbol :: after :=
  fun begins => different (List.cons_prefix_cons.mp begins).1.symm

/-- An occurrence that begins before a mark ends before it. -/
theorem Key.prefix_append_mark (key : Key mark) (symbol : Symbol) (before after : List Symbol) :
    key.text <+: symbol :: before ++ mark :: after ↔ key.text <+: symbol :: before := by
  refine ⟨fun begins => ?_, fun begins => begins.trans (List.prefix_append _ _)⟩
  rcases List.prefix_or_prefix_of_prefix begins
    (List.prefix_append (symbol :: before) (mark :: after)) with inside | beyond
  · exact inside
  obtain ⟨tail, continued⟩ := beyond
  cases tail with
  | nil => exact ⟨[], by rw [← continued, List.append_nil, List.append_nil]⟩
  | cons next tail =>
      obtain ⟨rest, whole⟩ := begins
      rw [← continued, List.append_assoc] at whole
      obtain rfl : next = mark := (List.cons.inj (List.append_cancel_left whole)).1
      obtain ⟨-, same⟩ := List.cons.inj continued
      refine absurd ?_ key.free
      rw [← same]
      exact List.mem_append_right _ List.mem_cons_self

/-- Where a key occurs, no separate one does. -/
theorem Key.Separate.not_begins (separate : other.Separate key) :
    ¬ other.text <+: key.text ++ after := by
  intro begins
  exact (List.prefix_or_prefix_of_prefix begins (List.prefix_append key.text after)).elim
    separate.1 separate.2

end Prefixes

/-! ### Substitution -/

/-- A key with its value. -/
abbrev Entry (mark : Symbol) := Key mark × List Symbol

instance : Std.Symm fun first second : Entry mark => first.1.Separate second.1 :=
  ⟨fun _ _ => Key.Separate.symm⟩

variable [DecidableEq Symbol]

instance (key other : Key mark) : Decidable (key.Separate other) :=
  inferInstanceAs (Decidable (_ ∧ _))

/-- The substitution after some skipped symbols. -/
def substituteFrom (entries : List (Entry mark)) : Nat → List Symbol → List Symbol
  | _, [] => []
  | skipped + 1, _ :: rest => substituteFrom entries skipped rest
  | 0, symbol :: rest =>
      match entries.find? fun entry => entry.1.text.isPrefixOf (symbol :: rest) with
      | some entry => entry.2 ++ substituteFrom entries entry.1.tail.length rest
      | none => symbol :: substituteFrom entries 0 rest

/-- The text with each occurrence of a key replaced by its value, from left to right. -/
def substitute (entries : List (Entry mark)) (text : List Symbol) : List Symbol :=
  substituteFrom entries 0 text

/-- The number of places at which the key occurs. -/
def occurrences (key : Key mark) : List Symbol → Nat
  | [] => 0
  | symbol :: rest =>
      (if key.text.isPrefixOf (symbol :: rest) then 1 else 0) + occurrences key rest

/-! ### Substitution in parts of a text -/

section Substitution

variable {entries : List (Entry mark)} {symbol : Symbol} {before after rest : List Symbol}

theorem substituteFrom_eq (skipped : Nat) (text : List Symbol) :
    substituteFrom entries skipped text = substitute entries (text.drop skipped) := by
  induction text generalizing skipped with
  | nil =>
      rw [List.drop_nil]
      cases skipped <;> rfl
  | cons symbol rest inductionHypothesis =>
      cases skipped with
      | zero => rfl
      | succ skipped => exact inductionHypothesis skipped

theorem substitute_cons_of_some {entry : Entry mark}
    (found : (entries.find? fun entry => entry.1.text.isPrefixOf (symbol :: rest)) = some entry) :
    substitute entries (symbol :: rest) =
      entry.2 ++ substitute entries (rest.drop entry.1.tail.length) := by
  rw [substitute, substituteFrom, found, ← substituteFrom_eq]

theorem substitute_cons_of_none (absent : ∀ entry ∈ entries, ¬ entry.1.text <+: symbol :: rest) :
    substitute entries (symbol :: rest) = symbol :: substitute entries rest := by
  have missing : (entries.find? fun entry => entry.1.text.isPrefixOf (symbol :: rest)) = none :=
    List.find?_eq_none.mpr fun entry member =>
      mt List.isPrefixOf_iff_prefix.mp (absent entry member)
  rw [substitute, substituteFrom, missing, ← substitute]

/-- Symbols that are not the mark stay. -/
theorem substitute_free_append (free : mark ∉ before) :
    substitute entries (before ++ after) = before ++ substitute entries after := by
  induction before with
  | nil => rfl
  | cons symbol before inductionHypothesis =>
      rw [List.cons_append, List.cons_append,
        ← inductionHypothesis (List.not_mem_of_not_mem_cons free)]
      exact substitute_cons_of_none fun entry _ =>
        Key.not_begins (List.ne_of_not_mem_cons free).symm

/-- The parts before and after a mark are substituted on their own. -/
theorem substitute_append_mark (before after : List Symbol) :
    substitute entries (before ++ mark :: after) =
      substitute entries before ++ substitute entries (mark :: after) := by
  induction length : before.length using Nat.strong_induction_on generalizing before with
  | h size inductionHypothesis =>
      cases before with
      | nil => rfl
      | cons symbol before =>
          have sameFind : (entries.find? fun entry =>
              entry.1.text.isPrefixOf (symbol :: (before ++ mark :: after))) =
              entries.find? fun entry => entry.1.text.isPrefixOf (symbol :: before) := by
            refine congrArg (entries.find? ·) (funext fun entry => Bool.eq_iff_iff.mpr ?_)
            rw [List.isPrefixOf_iff_prefix, List.isPrefixOf_iff_prefix]
            exact entry.1.prefix_append_mark symbol before after
          rw [List.length_cons] at length
          cases found : entries.find? fun entry =>
              entry.1.text.isPrefixOf (symbol :: before) with
          | some entry =>
              have fits : entry.1.tail.length ≤ before.length := by
                have begins := List.find?_some found
                exact Nat.le_of_succ_le_succ (List.isPrefixOf_iff_prefix.mp begins).length_le
              rw [List.cons_append, substitute_cons_of_some (sameFind.trans found),
                substitute_cons_of_some found, List.drop_append_of_le_length fits,
                inductionHypothesis _ (by rw [List.length_drop]; omega) _ rfl, List.append_assoc]
          | none =>
              have absent := List.find?_eq_none.mp found
              simp only [List.isPrefixOf_iff_prefix] at absent
              rw [List.cons_append, substitute_cons_of_none absent, substitute_cons_of_none,
                inductionHypothesis before.length (by omega) before rfl, List.cons_append]
              exact fun entry member => mt (entry.1.prefix_append_mark symbol before after).mp
                (absent entry member)

theorem substitute_empty (text : List Symbol) :
    substitute ([] : List (Entry mark)) text = text := by
  induction text with
  | nil => rfl
  | cons symbol rest inductionHypothesis =>
      rw [substitute_cons_of_none fun entry member => absurd member List.not_mem_nil,
        inductionHypothesis]

variable {key : Key mark} {value : List Symbol}

/-- A key that is not substituted stays, between what the two sides become. -/
theorem substitute_around (separate : ∀ entry ∈ entries, entry.1.Separate key)
    (before after : List Symbol) :
    substitute entries (before ++ key.text ++ after) =
      substitute entries before ++ key.text ++ substitute entries after := by
  have absent (entry : Entry mark) (member : entry ∈ entries) :
      ¬ entry.1.text <+: mark :: (key.tail ++ after) :=
    (separate entry member).not_begins
  rw [Key.text, List.append_assoc, List.cons_append, substitute_append_mark,
    substitute_cons_of_none absent, substitute_free_append key.free, List.append_assoc,
    List.cons_append]

/-- A key that is substituted last is its value, between what the two sides become. -/
theorem substitute_own_around (separate : ∀ entry ∈ entries, entry.1.Separate key)
    (before after : List Symbol) :
    substitute (entries ++ [(key, value)]) (before ++ key.text ++ after) =
      substitute (entries ++ [(key, value)]) before ++ value ++
        substitute (entries ++ [(key, value)]) after := by
  have found : ((entries ++ [(key, value)]).find? fun entry =>
      entry.1.text.isPrefixOf (mark :: (key.tail ++ after))) = some (key, value) := by
    rw [List.find?_append, List.find?_eq_none.mpr, Option.none_or]
    · exact List.find?_cons_of_pos
        (List.isPrefixOf_iff_prefix.mpr (List.prefix_append key.text after))
    · exact fun entry member => mt List.isPrefixOf_iff_prefix.mp
        (separate entry member).not_begins
  rw [Key.text, List.append_assoc, List.cons_append, substitute_append_mark,
    substitute_cons_of_some found, List.drop_left, List.append_assoc]

/-- The order of separate keys does not matter. -/
theorem substitute_perm {others : List (Entry mark)} (same : others.Perm entries)
    (separate : entries.Pairwise fun first second => first.1.Separate second.1)
    (text : List Symbol) : substitute others text = substitute entries text := by
  have sameFind (text : List Symbol) :
      (others.find? fun entry => entry.1.text.isPrefixOf text) =
        entries.find? fun entry => entry.1.text.isPrefixOf text := by
    cases found : entries.find? fun entry => entry.1.text.isPrefixOf text with
    | none =>
        refine List.find?_eq_none.mpr fun entry member => ?_
        exact List.find?_eq_none.mp found entry (same.mem_iff.mp member)
    | some entry =>
        have begins := List.find?_some found
        cases otherFound : others.find? fun entry => entry.1.text.isPrefixOf text with
        | none =>
            have member := same.mem_iff.mpr (List.mem_of_find?_eq_some found)
            exact absurd begins (List.find?_eq_none.mp otherFound entry member)
        | some other =>
            have otherBegins := List.find?_some otherFound
            rw [List.isPrefixOf_iff_prefix] at begins otherBegins
            by_contra different
            have apart := separate.forall (same.mem_iff.mp (List.mem_of_find?_eq_some otherFound))
              (List.mem_of_find?_eq_some found) fun same => different (congrArg some same)
            exact (List.prefix_or_prefix_of_prefix otherBegins begins).elim apart.1 apart.2
  have from_eq (skipped : Nat) (text : List Symbol) :
      substituteFrom others skipped text = substituteFrom entries skipped text := by
    induction text generalizing skipped with
    | nil => rfl
    | cons symbol rest inductionHypothesis =>
        cases skipped with
        | succ skipped => exact inductionHypothesis skipped
        | zero =>
            rw [substituteFrom, substituteFrom, sameFind]
            simp only [inductionHypothesis]
  exact from_eq 0 text

end Substitution

/-! ### Occurrences of a key -/

section Occurrences

variable {key : Key mark}

theorem occurrences_cons (symbol : Symbol) (rest : List Symbol) :
    occurrences key (symbol :: rest) =
      (if key.text.isPrefixOf (symbol :: rest) then 1 else 0) + occurrences key rest :=
  rfl

theorem occurrences_cons_of_ne {symbol : Symbol} (different : symbol ≠ mark) (rest : List Symbol) :
    occurrences key (symbol :: rest) = occurrences key rest := by
  rw [occurrences_cons, if_neg (mt List.isPrefixOf_iff_prefix.mp (Key.not_begins different)),
    Nat.zero_add]

theorem occurrences_free_append {before : List Symbol} (free : mark ∉ before)
    (after : List Symbol) : occurrences key (before ++ after) = occurrences key after := by
  induction before with
  | nil => rfl
  | cons symbol before inductionHypothesis =>
      rw [List.cons_append, occurrences_cons_of_ne (List.ne_of_not_mem_cons free).symm,
        inductionHypothesis (List.not_mem_of_not_mem_cons free)]

theorem occurrences_append_mark (before after : List Symbol) :
    occurrences key (before ++ mark :: after) =
      occurrences key before + occurrences key (mark :: after) := by
  induction before with
  | nil => exact (Nat.zero_add _).symm
  | cons symbol before inductionHypothesis =>
      have same : key.text.isPrefixOf (symbol :: (before ++ mark :: after)) =
          key.text.isPrefixOf (symbol :: before) := by
        rw [Bool.eq_iff_iff, List.isPrefixOf_iff_prefix, List.isPrefixOf_iff_prefix]
        exact key.prefix_append_mark symbol before after
      rw [List.cons_append, occurrences_cons, same, inductionHypothesis, ← Nat.add_assoc,
        ← occurrences_cons]

theorem occurrences_around (before after : List Symbol) :
    occurrences key (before ++ key.text ++ after) =
      occurrences key before + 1 + occurrences key after := by
  have begins : key.text.isPrefixOf (mark :: (key.tail ++ after)) = true :=
    List.isPrefixOf_iff_prefix.mpr (List.prefix_append key.text after)
  rw [Key.text, List.append_assoc, List.cons_append, occurrences_append_mark]
  rw [occurrences_cons, if_pos begins, occurrences_free_append key.free, Nat.add_assoc]

/-- A text has no occurrence of the key, or it has a first one. -/
theorem exists_first_occurrence (key : Key mark) (text : List Symbol) :
    occurrences key text = 0 ∨
      ∃ before after, text = before ++ key.text ++ after ∧ occurrences key before = 0 := by
  induction text with
  | nil => exact .inl rfl
  | cons symbol rest inductionHypothesis =>
      by_cases begins : key.text <+: symbol :: rest
      · obtain ⟨after, whole⟩ := begins
        exact .inr ⟨[], after, whole.symm, rfl⟩
      · have notHere : (if key.text.isPrefixOf (symbol :: rest) then 1 else 0) = 0 :=
          if_neg (mt List.isPrefixOf_iff_prefix.mp begins)
        rcases inductionHypothesis with none | ⟨before, after, rfl, free⟩
        · exact .inl (by rw [occurrences_cons, notHere, none])
        · refine .inr ⟨symbol :: before, after, rfl, ?_⟩
          rw [occurrences_cons, free, Nat.add_zero]
          refine if_neg (mt List.isPrefixOf_iff_prefix.mp fun here => begins ?_)
          exact here.trans ((List.prefix_append (symbol :: before) key.text).trans
            (List.prefix_append _ after))

/-- Induction over the occurrences of a key in a text. -/
theorem induction_on_occurrences (key : Key mark) {Holds : List Symbol → Prop}
    (free : ∀ text, occurrences key text = 0 → Holds text)
    (around : ∀ before after, occurrences key before = 0 → Holds after →
      Holds (before ++ key.text ++ after)) (text : List Symbol) : Holds text := by
  induction length : text.length using Nat.strong_induction_on generalizing text with
  | h size inductionHypothesis =>
      rcases exists_first_occurrence key text with absent | ⟨before, after, rfl, absent⟩
      · exact free text absent
      · refine around before after absent (inductionHypothesis after.length ?_ after rfl)
        rw [← length, List.length_append, List.length_append, Key.text, List.length_cons]
        omega

end Occurrences

/-! ### One more key -/

section OneMore

variable {entries : List (Entry mark)} {key : Key mark} {value text : List Symbol}

/-- A key that does not occur changes nothing. -/
theorem substitute_append_of_absent (absent : occurrences key text = 0) :
    substitute (entries ++ [(key, value)]) text = substitute entries text := by
  have from_eq (skipped : Nat) : substituteFrom (entries ++ [(key, value)]) skipped text =
      substituteFrom entries skipped text := by
    induction text generalizing skipped with
    | nil => rfl
    | cons symbol rest inductionHypothesis =>
        rw [occurrences_cons, Nat.add_eq_zero_iff] at absent
        have notHere : key.text.isPrefixOf (symbol :: rest) = false := by
          by_contra here
          rw [if_pos (Bool.not_eq_false _ ▸ here)] at absent
          cases absent.1
        cases skipped with
        | succ skipped => exact inductionHypothesis absent.2 skipped
        | zero =>
            have sameFind : ((entries ++ [(key, value)]).find? fun entry =>
                entry.1.text.isPrefixOf (symbol :: rest)) =
                entries.find? fun entry => entry.1.text.isPrefixOf (symbol :: rest) := by
              rw [List.find?_append, List.find?_cons_of_neg (Bool.not_eq_true _ ▸ notHere),
                List.find?_nil, Option.or_none]
            rw [substituteFrom, substituteFrom, sameFind]
            simp only [inductionHypothesis absent.2]
  exact from_eq 0

theorem substitute_singleton_of_absent (absent : occurrences key text = 0) :
    substitute [(key, value)] text = text := by
  have same : substitute ([] ++ [(key, value)]) text = substitute [] text :=
    substitute_append_of_absent absent
  rwa [List.nil_append, substitute_empty] at same

theorem substitute_singleton_around (before after : List Symbol) :
    substitute [(key, value)] (before ++ key.text ++ after) =
      substitute [(key, value)] before ++ value ++ substitute [(key, value)] after := by
  have none : ∀ entry ∈ ([] : List (Entry mark)), entry.1.Separate key := nofun
  exact substitute_own_around none before after

section Separate

variable (separate : ∀ entry ∈ entries, entry.1.Separate key)

include separate

/-- Each occurrence of the key makes the text longer or shorter by the same amount. -/
theorem length_substitute_append (value text : List Symbol) :
    (substitute (entries ++ [(key, value)]) text).length +
        occurrences key text * key.text.length =
      (substitute entries text).length + occurrences key text * value.length := by
  induction text using induction_on_occurrences key with
  | free text absent => rw [substitute_append_of_absent absent, absent, Nat.zero_mul, Nat.zero_mul]
  | around before after absent inductionHypothesis =>
      rw [substitute_own_around separate, substitute_around separate, occurrences_around,
        substitute_append_of_absent absent, absent]
      simp only [List.length_append, Nat.zero_add, Nat.add_mul, Nat.one_mul]
      omega

/-- The occurrences of a key that is not substituted stay. -/
theorem occurrences_le_substitute (text : List Symbol) :
    occurrences key text ≤ occurrences key (substitute entries text) := by
  induction text using induction_on_occurrences key with
  | free text absent => rw [absent]; exact Nat.zero_le _
  | around before after absent inductionHypothesis =>
      rw [substitute_around separate, occurrences_around, occurrences_around, absent]
      omega

/-- A key that is its own value can be left out. -/
theorem substitute_append_self (text : List Symbol) :
    substitute (entries ++ [(key, key.text)]) text = substitute entries text := by
  induction text using induction_on_occurrences key with
  | free text absent => exact substitute_append_of_absent absent
  | around before after absent inductionHypothesis =>
      rw [substitute_own_around separate, substitute_around separate, inductionHypothesis,
        substitute_append_of_absent absent]

end Separate

theorem length_substitute_singleton (key : Key mark) (value text : List Symbol) :
    (substitute [(key, value)] text).length + occurrences key text * key.text.length =
      text.length + occurrences key text * value.length := by
  have none : ∀ entry ∈ ([] : List (Entry mark)), entry.1.Separate key := nofun
  have counted : (substitute ([] ++ [(key, value)]) text).length + _ = _ :=
    length_substitute_append none value text
  rwa [List.nil_append, substitute_empty] at counted

theorem substitute_singleton_self (text : List Symbol) :
    substitute [(key, key.text)] text = text := by
  have none : ∀ entry ∈ ([] : List (Entry mark)), entry.1.Separate key := nofun
  have same := substitute_append_self none text
  rwa [List.nil_append, substitute_empty] at same

/-- The substitution of one key changes nothing exactly if the key does not occur or is its own
value. -/
theorem substitute_singleton_eq_self_iff :
    substitute [(key, value)] text = text ↔ occurrences key text = 0 ∨ value = key.text := by
  constructor
  · intro same
    rcases exists_first_occurrence key text with absent | ⟨before, after, rfl, absent⟩
    · exact .inl absent
    right
    have counted := length_substitute_singleton key value
      (before ++ key.text ++ after)
    rw [same, Nat.add_left_cancel_iff, occurrences_around] at counted
    have length := Nat.eq_of_mul_eq_mul_left (by omega) counted
    rw [substitute_singleton_around, substitute_singleton_of_absent absent, List.append_assoc,
      List.append_assoc, List.append_cancel_left_eq] at same
    exact (List.append_inj same length.symm).1
  · rintro (absent | rfl)
    · exact substitute_singleton_of_absent absent
    · exact substitute_singleton_self text

/-- Two values for a key that occurs give the same text only if they are the same. -/
theorem eq_of_substitute_singleton_eq {other : List Symbol} (occurs : occurrences key text ≠ 0)
    (same : substitute [(key, value)] text = substitute [(key, other)] text) : value = other := by
  obtain ⟨before, after, rfl, absent⟩ := (exists_first_occurrence key text).resolve_left occurs
  have length : value.length = other.length := by
    have counted := length_substitute_singleton key value
      (before ++ key.text ++ after)
    have otherCounted := length_substitute_singleton key other
      (before ++ key.text ++ after)
    rw [same, otherCounted, Nat.add_left_cancel_iff] at counted
    exact (Nat.eq_of_mul_eq_mul_left (Nat.pos_of_ne_zero occurs) counted).symm
  rw [substitute_singleton_around, substitute_singleton_around,
    substitute_singleton_of_absent absent, substitute_singleton_of_absent absent,
    List.append_assoc, List.append_assoc, List.append_cancel_left_eq] at same
  exact (List.append_inj same length).1

section OneAfterTheOthers

variable (separate : ∀ entry ∈ entries, entry.1.Separate key)

include separate

/-- Substituting the key after the others gives the same text when no occurrence is new. -/
theorem substitute_singleton_substitute (text : List Symbol)
    (old : occurrences key (substitute entries text) = occurrences key text) :
    substitute [(key, value)] (substitute entries text) =
      substitute (entries ++ [(key, value)]) text := by
  induction text using induction_on_occurrences key with
  | free text absent =>
      rw [absent] at old
      rw [substitute_singleton_of_absent old, substitute_append_of_absent absent]
  | around before after absent inductionHypothesis =>
      rw [substitute_around separate, occurrences_around, occurrences_around, absent] at old
      have atLeast := occurrences_le_substitute separate after
      have oldBefore : occurrences key (substitute entries before) = 0 := by omega
      rw [substitute_around separate, substitute_singleton_around,
        substitute_own_around separate, substitute_singleton_of_absent oldBefore,
        substitute_append_of_absent absent, inductionHypothesis (by omega)]

/-- A value as long as its key has to be the key where an occurrence is new. -/
theorem old_or_self_of_length_eq (length : value.length = key.text.length) (text : List Symbol)
    (same : substitute [(key, value)] (substitute entries text) =
      substitute (entries ++ [(key, value)]) text) :
    occurrences key (substitute entries text) = occurrences key text ∨ value = key.text := by
  induction text using induction_on_occurrences key with
  | free text absent =>
      rw [substitute_append_of_absent absent, substitute_singleton_eq_self_iff] at same
      rwa [absent]
  | around before after absent inductionHypothesis =>
      have sameLength (text : List Symbol) :
          (substitute [(key, value)] text).length = text.length := by
        have counted := length_substitute_singleton key value text
        rwa [length, Nat.add_right_cancel_iff] at counted
      rw [substitute_around separate, substitute_singleton_around,
        substitute_own_around separate, substitute_append_of_absent absent,
        List.append_assoc, List.append_assoc] at same
      obtain ⟨sameBefore, sameAfter⟩ := List.append_inj same (sameLength _)
      rw [substitute_around separate, occurrences_around, occurrences_around, absent]
      rcases substitute_singleton_eq_self_iff.mp sameBefore with oldBefore | isKey
      · refine (inductionHypothesis (List.append_cancel_left sameAfter)).imp_left fun oldAfter => ?_
        rw [oldBefore, oldAfter]
      · exact .inr isKey

/-- Substituting the key after the others gives the same text as substituting all at once exactly
if no occurrence is new or the key is its own value. -/
theorem substitute_singleton_substitute_iff {replaced : List Symbol}
    (occurring : occurrences key text ≠ 0 → replaced = value) :
    substitute [(key, replaced)] (substitute entries text) =
        substitute (entries ++ [(key, value)]) text ↔
      occurrences key (substitute entries text) = occurrences key text ∨
        replaced = key.text := by
  have sameValue : substitute (entries ++ [(key, value)]) text =
      substitute (entries ++ [(key, replaced)]) text := by
    by_cases absent : occurrences key text = 0
    · rw [substitute_append_of_absent absent, substitute_append_of_absent absent]
    · rw [occurring absent]
  rw [sameValue]
  constructor
  · intro same
    have counted := length_substitute_singleton key replaced
      (substitute entries text)
    have countedOnce := length_substitute_append separate replaced text
    rw [same] at counted
    by_cases length : replaced.length = key.text.length
    · exact old_or_self_of_length_eq separate length text same
    · left
      have atLeast := occurrences_le_substitute separate text
      obtain ⟨more, new⟩ := Nat.exists_eq_add_of_le atLeast
      rw [new, Nat.add_mul, Nat.add_mul] at counted
      have balanced : more * key.text.length = more * replaced.length := by omega
      by_contra changed
      have positive : 0 < more := by omega
      exact length (Nat.eq_of_mul_eq_mul_left positive balanced).symm
  · rintro (old | rfl)
    · exact substitute_singleton_substitute separate text old
    · rw [substitute_singleton_self, substitute_append_self separate]

end OneAfterTheOthers

end OneMore

end Placeholders
