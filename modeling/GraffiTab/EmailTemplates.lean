/-
This file asks whether the placeholders of a mail stand for their values, whatever these are.

They are replaced one after the other, in the order of a hash map, by a function that reads the
value as a replacement for a regular expression: dollars and backslashes in it have a meaning, or
make it throw. And a value can bring in, or complete, another placeholder, which a later pass then
replaces.
-/

import Mathlib.Data.List.Perm.Subperm
import GraffiTab.Library.Placeholders

namespace GraffiTab

open Placeholders

abbrev Text : Type := List Char

/-! ### Replacement -/

/-- What the matcher of a regular expression throws at a replacement. -/
inductive MatcherException where
  | illegalArgumentException
  | indexOutOfBoundsException
  deriving DecidableEq, Repr

/-- `Matcher.appendReplacement` for a pattern without groups: a backslash takes the next character
as it is, and a dollar with zeros stands for the match. The flag says that the reference to the
match is still being read. -/
def appendReplacement (group : Text) : Bool → Text → Except MatcherException Text
  | _, [] => .ok []
  | inReference, symbol :: rest =>
      if inReference = true ∧ symbol = '0' then appendReplacement group true rest
      else if symbol = '\\' then
        match rest with
        | [] => .error .illegalArgumentException
        | escaped :: rest => (appendReplacement group false rest).map (escaped :: ·)
      else if symbol = '$' then
        match rest with
        | [] => .error .illegalArgumentException
        | digit :: rest =>
            if digit = '0' then (appendReplacement group true rest).map (group ++ ·)
            else if digit.isDigit then .error .indexOutOfBoundsException
            else .error .illegalArgumentException
      else (appendReplacement group false rest).map (symbol :: ·)

/-- `String.replaceAll` for a key, which stands for itself as a regular expression. The replacement
is only read when there is a match. -/
def replaceAll (text : Text) (regex : Key '@') (replacement : Text) :
    Except MatcherException Text :=
  if occurrences regex text = 0 then .ok text
  else (appendReplacement regex.text false replacement).map fun value =>
    substitute [(regex, value)] text

/-- `Email.replacePlaceholders`, with the entries in the order of the map. -/
def replacePlaceholders (placeholders : List (Entry '@')) (baseText : Text) :
    Except MatcherException Text :=
  placeholders.foldlM (fun text entry => replaceAll text entry.1 entry.2) baseText

/-! ### Mails -/

def usernameKey : Key '@' := ⟨"username".toList, by decide⟩
def activationLinkKey : Key '@' := ⟨"activation_link".toList, by decide⟩
def getStartedLinkKey : Key '@' := ⟨"get_started_link".toList, by decide⟩
def resetLinkKey : Key '@' := ⟨"reset_link".toList, by decide⟩
def emailKey : Key '@' := ⟨"email".toList, by decide⟩
def feedbackKey : Key '@' := ⟨"feedback".toList, by decide⟩
def streamableIdKey : Key '@' := ⟨"streamable_id".toList, by decide⟩
def streamableLinkKey : Key '@' := ⟨"streamable_link".toList, by decide⟩

/-- The data of the mails that `EmailService` sends. -/
inductive EmailData where
  | welcome (username activationLink : Text)
  | welcomeExternal (username getStartedLink : Text)
  | resetPassword (resetPasswordLink : Text)
  | feedback (name email text : Text)
  | flag (streamableId streamableLink : Text)
  deriving DecidableEq

/-- The map from the keys to their values. -/
def EmailData.placeholders : EmailData → List (Entry '@')
  | .welcome username activationLink =>
      [(usernameKey, username), (activationLinkKey, activationLink)]
  | .welcomeExternal username getStartedLink =>
      [(usernameKey, username), (getStartedLinkKey, getStartedLink)]
  | .resetPassword resetPasswordLink => [(resetLinkKey, resetPasswordLink)]
  | .feedback name email text =>
      [(usernameKey, name), (emailKey, email), (feedbackKey, text)]
  | .flag streamableId streamableLink =>
      [(streamableIdKey, streamableId), (streamableLinkKey, streamableLink)]

/-! ### What should come out -/

/-- In every order of the map the values are put into the template all at once and as they are, and
after each pass this holds of the keys that were passed: no pass reads or expands what came with a
value. -/
structure ReplacesAtOnce (placeholders : List (Entry '@')) (template : Text) : Prop where
  result : ∀ order, order.Perm placeholders →
    replacePlaceholders order template = .ok (substitute placeholders template)
  passes : ∀ order, order.Perm placeholders → ∀ passed, passed <+: order →
    replacePlaceholders passed template = .ok (substitute passed template)

/-- The text has no character with a meaning in a replacement. -/
def IsLiteral (text : Text) : Prop := '$' ∉ text ∧ '\\' ∉ text

instance (text : Text) : Decidable (IsLiteral text) := inferInstanceAs (Decidable (_ ∧ _))

/-- The values for the keys in the template are literal, and putting in the values of any keys makes
no new occurrence of another one, unless that one's value is read as the key itself. -/
structure KeepsApart (placeholders : List (Entry '@')) (template : Text) : Prop where
  literal : ∀ entry ∈ placeholders, occurrences entry.1 template ≠ 0 → IsLiteral entry.2
  old : ∀ entry ∈ placeholders, ∀ passed, passed.Subperm placeholders → entry ∉ passed →
    occurrences entry.1 (substitute passed template) = occurrences entry.1 template ∨
      appendReplacement entry.1.text false entry.2 = .ok entry.1.text

/-! ### Literal values -/

section Literal

variable {key : Key '@'} {value : Text}

/-- A character without a meaning stays. -/
theorem appendReplacement_plain (group : Text) {symbol : Char} (noBackslash : symbol ≠ '\\')
    (noDollar : symbol ≠ '$') (rest : Text) :
    appendReplacement group false (symbol :: rest) =
      (appendReplacement group false rest).map (symbol :: ·) := by
  rw [appendReplacement.eq_def]
  simp only [Bool.false_eq_true, false_and, if_false, noBackslash, noDollar]

/-- A character after a backslash stays. -/
theorem appendReplacement_escaped (group : Text) (escaped : Char) (rest : Text) :
    appendReplacement group false ('\\' :: escaped :: rest) =
      (appendReplacement group false rest).map (escaped :: ·) := by
  rw [appendReplacement.eq_def]
  simp only [Bool.false_eq_true, false_and, if_false, if_true]

/-- A dollar that is read stands for the match. -/
theorem appendReplacement_dollar {group rest read : Text}
    (returned : appendReplacement group false ('$' :: rest) = .ok read) :
    group <+: read := by
  rw [appendReplacement.eq_def] at returned
  simp only [Bool.false_eq_true, false_and, if_false, if_true,
    show '$' ≠ '\\' by decide] at returned
  cases rest with
  | nil => cases returned
  | cons digit rest =>
      simp only at returned
      split at returned
      · cases answer : appendReplacement group true rest with
        | error thrown => rw [answer] at returned; cases returned
        | ok tail =>
            rw [answer] at returned
            exact Except.ok.inj returned ▸ List.prefix_append group tail
      · split at returned <;> cases returned

/-- A literal value is read as it is. -/
theorem appendReplacement_of_isLiteral (group : Text) (literal : IsLiteral value) :
    appendReplacement group false value = .ok value := by
  induction value with
  | nil => rfl
  | cons symbol rest inductionHypothesis =>
      obtain ⟨noDollar, noBackslash⟩ := literal
      have restLiteral : IsLiteral rest :=
        ⟨List.not_mem_of_not_mem_cons noDollar, List.not_mem_of_not_mem_cons noBackslash⟩
      rw [appendReplacement_plain group (List.ne_of_not_mem_cons noBackslash).symm
        (List.ne_of_not_mem_cons noDollar).symm, inductionHypothesis restLiteral]
      rfl

theorem replicate_append_cons (count : Nat) (symbol : Char) (rest : Text) :
    List.replicate count symbol ++ symbol :: rest =
      symbol :: (List.replicate count symbol ++ rest) := by
  rw [← List.singleton_append, ← List.append_assoc, ← List.replicate_succ',
    List.replicate_succ, List.cons_append]

theorem map_eq_ok {Value Result : Type} {change : Value → Result}
    {answer : Except MatcherException Value} {result : Result} :
    answer.map change = .ok result ↔ ∃ value, answer = .ok value ∧ change value = result := by
  cases answer with
  | error thrown => exact iff_of_false nofun nofun
  | ok value => exact ⟨fun same => ⟨value, rfl, Except.ok.inj same⟩, fun ⟨_, same, changed⟩ =>
      congrArg Except.ok (Except.ok.inj same ▸ changed)⟩

/-- No value is read as itself after some backslashes, and only a literal one as itself. -/
theorem isLiteral_of_appendReplacement (backslashes : Nat)
    (read : appendReplacement key.text false value =
      .ok (List.replicate backslashes '\\' ++ value)) :
    backslashes = 0 ∧ IsLiteral value := by
  induction length : value.length using Nat.strong_induction_on
    generalizing backslashes value with
  | h size inductionHypothesis =>
      cases value with
      | nil =>
          have empty : List.replicate backslashes '\\' = [] := by
            simpa using (Except.ok.inj read).symm
          exact ⟨by simpa using empty, List.not_mem_nil, List.not_mem_nil⟩
      | cons symbol rest =>
          rw [List.length_cons] at length
          by_cases isDollar : symbol = '$'
          · rw [isDollar] at read
            obtain ⟨tail, whole⟩ := appendReplacement_dollar read
            cases backslashes with
            | zero => exact absurd (List.cons.inj whole).1 (by decide)
            | succ backslashes => exact absurd (List.cons.inj whole).1 (by decide)
          by_cases isBackslash : symbol = '\\'
          · rw [isBackslash] at read
            cases rest with
            | nil => cases read
            | cons escaped rest =>
                rw [List.length_cons] at length
                rw [appendReplacement_escaped, replicate_append_cons] at read
                obtain ⟨tail, answer, whole⟩ := map_eq_ok.mp read
                obtain ⟨rfl, rfl⟩ := List.cons.inj whole
                rw [replicate_append_cons] at answer
                exact absurd (inductionHypothesis rest.length (by omega) _ answer rfl).1
                  (Nat.succ_ne_zero backslashes)
          · rw [appendReplacement_plain key.text isBackslash isDollar] at read
            obtain ⟨tail, answer, whole⟩ := map_eq_ok.mp read
            cases backslashes with
            | zero =>
                rw [(List.cons.inj whole).2] at answer
                obtain ⟨-, noDollar, noBackslash⟩ :=
                  inductionHypothesis rest.length (by omega) 0 answer rfl
                exact ⟨rfl, List.not_mem_cons_of_ne_of_not_mem (Ne.symm isDollar) noDollar,
                  List.not_mem_cons_of_ne_of_not_mem (Ne.symm isBackslash) noBackslash⟩
            | succ backslashes => exact absurd (List.cons.inj whole).1 isBackslash

theorem appendReplacement_eq_self_iff :
    appendReplacement key.text false value = .ok value ↔ IsLiteral value :=
  ⟨fun read => (isLiteral_of_appendReplacement 0 read).2, appendReplacement_of_isLiteral key.text⟩

end Literal

/-! ### One pass -/

section Passes

variable {placeholders passed : List (Entry '@')} {entry : Entry '@'} {template : Text}

theorem replaceAll_of_absent {key : Key '@'} {value text : Text}
    (absent : occurrences key text = 0) : replaceAll text key value = .ok text :=
  if_pos absent

/-- What a pass over an occurring key returns. -/
theorem replaceAll_eq_ok {key : Key '@'} {value text result : Text}
    (occurs : occurrences key text ≠ 0) :
    replaceAll text key value = .ok result ↔
      ∃ read, appendReplacement key.text false value = .ok read ∧
        substitute [(key, read)] text = result := by
  rw [replaceAll, if_neg occurs, map_eq_ok]

theorem replacePlaceholders_append (passed : List (Entry '@')) (entry : Entry '@')
    (template : Text) :
    replacePlaceholders (passed ++ [entry]) template =
      replacePlaceholders passed template >>= fun text => replaceAll text entry.1 entry.2 := by
  rw [replacePlaceholders, List.foldlM_append]
  exact bind_congr fun text => bind_pure _

variable (separate : ∀ other ∈ passed, other.1.Separate entry.1)

include separate

/-- A pass after others is right when the value is literal and no occurrence is new. -/
theorem replaceAll_substitute
    (literal : occurrences entry.1 template ≠ 0 → IsLiteral entry.2)
    (old : occurrences entry.1 (substitute passed template) = occurrences entry.1 template ∨
      appendReplacement entry.1.text false entry.2 = .ok entry.1.text) :
    replaceAll (substitute passed template) entry.1 entry.2 =
      .ok (substitute (passed ++ [entry]) template) := by
  have atLeast := occurrences_le_substitute separate template
  by_cases absent : occurrences entry.1 (substitute passed template) = 0
  · rw [replaceAll_of_absent absent]
    exact congrArg Except.ok (substitute_append_of_absent (by omega)).symm
  refine (replaceAll_eq_ok absent).mpr ?_
  by_cases occurs : occurrences entry.1 template = 0
  · have isKey := old.resolve_left (by omega)
    refine ⟨entry.1.text, isKey, ?_⟩
    exact (substitute_singleton_substitute_iff separate (absurd occurs)).mpr (.inr rfl)
  · have read := appendReplacement_of_isLiteral entry.1.text (literal occurs)
    refine ⟨entry.2, read, (substitute_singleton_substitute_iff separate fun _ => rfl).mpr ?_⟩
    exact old.imp_right fun isKey => Except.ok.inj (read.symm.trans isKey)

/-- A right pass after others has met no new occurrence, or the value is read as the key. -/
theorem old_of_replaceAll
    (literal : occurrences entry.1 template ≠ 0 → IsLiteral entry.2)
    (right : replaceAll (substitute passed template) entry.1 entry.2 =
      .ok (substitute (passed ++ [entry]) template)) :
    occurrences entry.1 (substitute passed template) = occurrences entry.1 template ∨
      appendReplacement entry.1.text false entry.2 = .ok entry.1.text := by
  by_cases absent : occurrences entry.1 (substitute passed template) = 0
  · have atLeast := occurrences_le_substitute separate template
    exact .inl (by omega)
  obtain ⟨read, answer, same⟩ := (replaceAll_eq_ok absent).mp right
  have occurring (occurs : occurrences entry.1 template ≠ 0) : read = entry.2 :=
    Except.ok.inj (answer.symm.trans
      (appendReplacement_of_isLiteral entry.1.text (literal occurs)))
  refine ((substitute_singleton_substitute_iff separate occurring).mp same).imp_right ?_
  rintro rfl
  exact answer

end Passes

/-! ### All passes -/

section Orders

variable {placeholders : List (Entry '@')} {template : Text}

/-- The passes at the beginning of some order are those over some of the entries. -/
theorem forall_passes_iff (Right : List (Entry '@') → Prop) :
    (∀ order : List (Entry '@'), order.Perm placeholders →
      ∀ passed, passed <+: order → Right passed) ↔
      ∀ passed : List (Entry '@'), passed.Subperm placeholders → Right passed := by
  constructor
  · rintro right passed ⟨kept, permuted, sublist⟩
    obtain ⟨rest, whole⟩ := sublist.exists_perm_append
    exact right (passed ++ rest) (whole.trans (permuted.append_right rest)).symm passed
      (List.prefix_append passed rest)
  · intro right order permuted passed begins
    exact right passed (begins.sublist.subperm.trans permuted.subperm)

variable (separate : placeholders.Pairwise fun first second => first.1.Separate second.1)

include separate

theorem nodup_of_subperm {passed : List (Entry '@')} (some : passed.Subperm placeholders) :
    passed.Nodup := by
  obtain ⟨kept, permuted, sublist⟩ := some
  refine permuted.nodup_iff.mp (List.Nodup.sublist sublist ?_)
  refine separate.imp ?_
  rintro first second apart rfl
  exact apart.1 List.prefix_rfl

theorem separate_of_subperm {passed : List (Entry '@')} {entry : Entry '@'}
    (some : passed.Subperm placeholders) (member : entry ∈ placeholders)
    (other : entry ∉ passed) : ∀ earlier ∈ passed, earlier.1.Separate entry.1 :=
  fun _ earlierMember => separate.forall (some.subset earlierMember) member fun same =>
    other (same ▸ earlierMember)

/-- When values and keys keep apart, every pass is right. -/
theorem replacePlaceholders_of_keepsApart (apart : KeepsApart placeholders template)
    (passed : List (Entry '@')) (some : passed.Subperm placeholders) :
    replacePlaceholders passed template = .ok (substitute passed template) := by
  induction passed using List.reverseRecOn with
  | nil => rw [substitute_empty]; rfl
  | append_singleton passed entry inductionHypothesis =>
      have earlier : passed.Subperm placeholders :=
        (List.prefix_append passed [entry]).sublist.subperm.trans some
      have member : entry ∈ placeholders :=
        some.subset (List.mem_append_right _ (List.mem_singleton_self entry))
      have other : entry ∉ passed := by
        have distinct := List.nodup_append.mp (nodup_of_subperm separate some)
        exact fun again => distinct.2.2 entry again entry (List.mem_singleton_self entry) rfl
      rw [replacePlaceholders_append, inductionHypothesis earlier]
      exact replaceAll_substitute (separate_of_subperm separate earlier member other)
        (apart.literal entry member) (apart.old entry member passed earlier other)

/-- When every pass is right, values and keys keep apart. -/
theorem keepsApart_of_passes
    (right : ∀ passed : List (Entry '@'), passed.Subperm placeholders →
      replacePlaceholders passed template = .ok (substitute passed template)) :
    KeepsApart placeholders template := by
  have literal (entry : Entry '@') (member : entry ∈ placeholders)
      (occurs : occurrences entry.1 template ≠ 0) : IsLiteral entry.2 := by
    have alone := right [entry] (List.singleton_subperm_iff.mpr member)
    obtain ⟨read, answer, same⟩ := (replaceAll_eq_ok occurs).mp
      ((bind_pure (replaceAll template entry.1 entry.2)).symm.trans alone)
    rw [eq_of_substitute_singleton_eq occurs same] at answer
    exact appendReplacement_eq_self_iff.mp answer
  refine ⟨literal, fun entry member passed some other => ?_⟩
  have longer : (passed ++ [entry]).Subperm placeholders := by
    refine List.Nodup.subperm ?_ fun earlier earlierMember => ?_
    · refine List.nodup_append.mpr
        ⟨nodup_of_subperm separate some, List.pairwise_singleton _ entry, ?_⟩
      intro earlier earlierMember last lastMember same
      exact other (List.mem_singleton.mp lastMember ▸ same ▸ earlierMember)
    · rcases List.mem_append.mp earlierMember with isEarlier | isLast
      · exact some.subset isEarlier
      · exact List.mem_singleton.mp isLast ▸ member
  have last := right (passed ++ [entry]) longer
  rw [replacePlaceholders_append, right passed some] at last
  exact old_of_replaceAll (separate_of_subperm separate some member other) (literal entry member)
    last

theorem replacesAtOnce_iff_keepsApart :
    ReplacesAtOnce placeholders template ↔ KeepsApart placeholders template := by
  constructor
  · exact fun replaces => keepsApart_of_passes separate ((forall_passes_iff _).mp replaces.passes)
  · intro apart
    have right := replacePlaceholders_of_keepsApart separate apart
    refine ⟨fun order permuted => ?_, (forall_passes_iff _).mpr right⟩
    rw [right order permuted.subperm, substitute_perm permuted separate]

end Orders

/-! ### The mails -/

/-- The keys of a mail are separate. -/
theorem EmailData.separate (data : EmailData) :
    data.placeholders.Pairwise fun first second => first.1.Separate second.1 := by
  have of_keys (keys : List (Key '@')) (apart : keys.Pairwise Key.Separate)
      (same : data.placeholders.map Prod.fst = keys) :
      data.placeholders.Pairwise fun first second => first.1.Separate second.1 :=
    List.pairwise_map.mp (same ▸ apart)
  cases data with
  | welcome username activationLink =>
      exact of_keys [usernameKey, activationLinkKey] (by decide) rfl
  | welcomeExternal username getStartedLink =>
      exact of_keys [usernameKey, getStartedLinkKey] (by decide) rfl
  | resetPassword resetPasswordLink => exact of_keys [resetLinkKey] (by decide) rfl
  | feedback name email text =>
      exact of_keys [usernameKey, emailKey, feedbackKey] (by decide) rfl
  | flag streamableId streamableLink =>
      exact of_keys [streamableIdKey, streamableLinkKey] (by decide) rfl

/-- The placeholders of a mail are replaced at once, in every order and after every pass, exactly if
its values and keys keep apart. -/
theorem replacesAtOnce_iff (data : EmailData) (template : Text) :
    ReplacesAtOnce data.placeholders template ↔ KeepsApart data.placeholders template :=
  replacesAtOnce_iff_keepsApart data.separate

/-- A feedback about a price throws, and one about a placeholder is expanded. -/
theorem not_replacesAtOnce :
    ¬ ReplacesAtOnce (EmailData.feedback ['b'] ['c'] ['$', '5']).placeholders feedbackKey.text ∧
      ¬ ReplacesAtOnce (EmailData.feedback ['b'] ['c'] emailKey.text).placeholders
        feedbackKey.text := by
  constructor
  · intro replaces
    have returned := replaces.result _ (List.Perm.refl _)
    exact absurd returned (by decide +kernel)
  · intro replaces
    have returned := replaces.result _ (List.perm_append_singleton
      (feedbackKey, emailKey.text) [(usernameKey, ['b']), (emailKey, ['c'])]).symm
    exact absurd returned (by decide +kernel)

end GraffiTab
