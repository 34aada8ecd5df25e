/-
This file asks whether a request is answered in the language that its client prefers.

The resolver reads the header as one tag: the language is what stands before the first hyphen, or
before the first underscore if there is no hyphen, or else the whole header. Commas and weights are
not parsed, so a second range or a weight ends up in the name of the language or is dropped. And a
header of separators only has no part before the first one: the resolver throws.
-/

import Mathlib.Data.List.DropRight
import Mathlib.Data.List.MinMax
import GraffiTab.EmailTemplates
import GraffiTab.Lookups

namespace GraffiTab

/-! ### Locales -/

/-- `Locale.convertOldISOCodes`: in lower case, and three languages keep their older codes. -/
def convertOldISOCodes (language : Text) : Text :=
  let lower := language.map Char.toLower
  if lower = ['h', 'e'] then ['i', 'w']
  else if lower = ['y', 'i'] then ['j', 'i']
  else if lower = ['i', 'd'] then ['i', 'n']
  else lower

/-- A code of a language with an older code becomes that one, and any other one the code in lower
case. -/
theorem convertOldISOCodes_cases (language : Text) :
    (language.map Char.toLower ∈ [['h', 'e'], ['y', 'i'], ['i', 'd']] ∧
      convertOldISOCodes language ∈ [['i', 'w'], ['j', 'i'], ['i', 'n']]) ∨
    (language.map Char.toLower ∉ [['h', 'e'], ['y', 'i'], ['i', 'd']] ∧
      convertOldISOCodes language = language.map Char.toLower) := by
  unfold convertOldISOCodes
  generalize language.map Char.toLower = lower
  by_cases isHebrew : lower = ['h', 'e']
  · exact .inl ⟨by rw [isHebrew]; decide, by rw [isHebrew]; decide⟩
  by_cases isYiddish : lower = ['y', 'i']
  · exact .inl ⟨by rw [isYiddish]; decide, by rw [isYiddish]; decide⟩
  by_cases isIndonesian : lower = ['i', 'd']
  · exact .inl ⟨by rw [isIndonesian]; decide, by rw [isIndonesian]; decide⟩
  · simp only [isHebrew, isYiddish, isIndonesian, if_false]
    exact .inr ⟨by simp [isHebrew, isYiddish, isIndonesian], trivial⟩

/-- A converted code stays as it is. -/
theorem convertOldISOCodes_convertOldISOCodes (language : Text) :
    convertOldISOCodes (convertOldISOCodes language) = convertOldISOCodes language := by
  have stays : ∀ old ∈ [['i', 'w'], ['j', 'i'], ['i', 'n']], convertOldISOCodes old = old := by
    decide
  rcases convertOldISOCodes_cases language with ⟨-, isOld⟩ | ⟨notNew, same⟩
  · exact stays _ isOld
  · have lower : (language.map Char.toLower).map Char.toLower = language.map Char.toLower := by
      rw [List.map_map]
      exact List.map_congr_left fun symbol _ => toLower_toLower symbol
    rw [same]
    rcases convertOldISOCodes_cases (language.map Char.toLower) with ⟨isNew, -⟩ | ⟨-, again⟩
    · exact absurd (lower ▸ isNew) notNew
    · rw [again, lower]

/-- A `java.util.Locale`, with its language only: this is all that is read of it. -/
structure Locale where
  language : Text
  converted : convertOldISOCodes language = language
  deriving DecidableEq

/-- The locale of a language. -/
def Locale.ofLanguage (language : Text) : Locale where
  language := convertOldISOCodes language
  converted := convertOldISOCodes_convertOldISOCodes language

def Locale.english : Locale := .ofLanguage ['e', 'n']

/-- `LanguageTag.GRANDFATHERED`: tags that do not follow the grammar, and what they stand for. -/
def grandfathered : List (String × String) :=
  [("art-lojban", "jbo"), ("cel-gaulish", "xtg-x-cel-gaulish"), ("en-GB-oed", "en-GB-x-oed"),
    ("i-ami", "ami"), ("i-bnn", "bnn"), ("i-default", "en-x-i-default"),
    ("i-enochian", "und-x-i-enochian"), ("i-hak", "hak"), ("i-klingon", "tlh"), ("i-lux", "lb"),
    ("i-mingo", "see-x-i-mingo"), ("i-navajo", "nv"), ("i-pwn", "pwn"), ("i-tao", "tao"),
    ("i-tay", "tay"), ("i-tsu", "tsu"), ("no-bok", "nb"), ("no-nyn", "nn"), ("sgn-BE-FR", "sfb"),
    ("sgn-BE-NL", "vgt"), ("sgn-CH-DE", "sgg"), ("zh-guoyu", "cmn"), ("zh-hakka", "hak"),
    ("zh-min", "nan-x-zh-min"), ("zh-min-nan", "nan"), ("zh-xiang", "hsn")]

def isAlphaString (text : Text) : Bool := text.all Char.isAlpha

def isLanguage (subtag : Text) : Bool :=
  2 ≤ subtag.length && subtag.length ≤ 8 && isAlphaString subtag

def isExtlang (subtag : Text) : Bool := subtag.length = 3 && isAlphaString subtag

/-- The language that `LanguageTag.parse` finds in the subtags: an extended language is preferred,
and an undetermined one is empty. -/
def parseLanguage : List Text → Text
  | [] => []
  | language :: rest =>
      if isLanguage language then
        match rest.head? with
        | some extlang => if isExtlang extlang then extlang
            else if language = ['u', 'n', 'd'] then [] else language
        | none => if language = ['u', 'n', 'd'] then [] else language
      else []

/-- `Locale.forLanguageTag`. -/
def Locale.forLanguageTag (languageTag : Text) : Locale :=
  let preferred := grandfathered.find? fun entry =>
    entry.1.toList.map Char.toLower = languageTag.map Char.toLower
  .ofLanguage (parseLanguage (((preferred.map fun entry => entry.2.toList).getD languageTag).splitOn
    '-'))

/-! ### The resolver -/

/-- `String.split`: without a separator the text is the only part, and empty parts at the end are
removed. -/
def Text.split (text : Text) (separator : Char) : List Text :=
  if separator ∈ text then (text.splitOn separator).rdropWhile List.isEmpty else [text]

inductive ResolverException where
  | arrayIndexOutOfBoundsException
  deriving DecidableEq, Repr

/-- The first element of an array. -/
def firstElement : List Text → Except ResolverException Text
  | [] => .error .arrayIndexOutOfBoundsException
  | first :: _ => .ok first

/-- What a request says about its language. -/
structure LocaleRequest where
  lang : Option Text
  acceptLanguage : Option Text
  deriving DecidableEq

/-- The language in the header. -/
def headerLanguage (acceptHeaderValue : Text) : Except ResolverException Text :=
  if '-' ∈ acceptHeaderValue then firstElement (Text.split acceptHeaderValue '-')
  else if '_' ∈ acceptHeaderValue then firstElement (Text.split acceptHeaderValue '_')
  else .ok acceptHeaderValue

/-- The locale if its language is supported, or else English. -/
def supportedOrEnglish (supportedLanguagesList : List Text) (currentLocale : Locale) : Locale :=
  if currentLocale.language ∈ supportedLanguagesList then currentLocale else .english

/-- `FallbackAcceptHeaderLocaleResolver.resolveLocale`. -/
def resolveLocale (supportedLanguages : Option Text) (request : LocaleRequest) :
    Except ResolverException Locale :=
  match supportedLanguages with
  | none => .ok .english
  | some supportedLanguages =>
      let supportedLanguagesList := Text.split supportedLanguages ','
      match request.lang with
      | some currentLanguage =>
          .ok (supportedOrEnglish supportedLanguagesList (.forLanguageTag currentLanguage))
      | none =>
          match request.acceptLanguage with
          | none => .ok .english
          | some acceptHeaderValue =>
              if Text.hasText acceptHeaderValue then do
                let lang ← headerLanguage acceptHeaderValue
                return supportedOrEnglish supportedLanguagesList (.ofLanguage lang)
              else .ok .english

/-! ### Accept-Language -/

/-- A language with its subtags, each behind its separator. -/
structure LanguageRange where
  primary : Text
  subtags : List (Char × Text)
  isPrimary : primary ≠ [] ∧ primary.length ≤ 8 ∧ ∀ symbol ∈ primary, symbol.isAlpha
  areSubtags : ∀ subtag ∈ subtags, (subtag.1 = '-' ∨ subtag.1 = '_') ∧
    subtag.2 ≠ [] ∧ subtag.2.length ≤ 8 ∧ ∀ symbol ∈ subtag.2, symbol.isAlphanum

def LanguageRange.text (range : LanguageRange) : Text :=
  range.primary ++ range.subtags.flatMap fun subtag => subtag.1 :: subtag.2

/-- A weight between 0 and 1, with at most three decimals behind its point if it has one. -/
structure Weight where
  units : Fin 2
  decimals : Option (List (Fin 10))
  short : ∀ digits ∈ decimals, digits.length ≤ 3
  atMostOne : units = 1 → ∀ digits ∈ decimals, ∀ digit ∈ digits, digit = 0

def Weight.text (weight : Weight) : Text :=
  weight.units.val.digitChar :: match weight.decimals with
    | none => []
    | some digits => '.' :: digits.map fun digit => digit.val.digitChar

/-- The weight in thousandths. -/
def Weight.thousandths (weight : Weight) : Nat :=
  let digits := weight.decimals.getD []
  1000 * weight.units.val +
    100 * (digits.getD 0 0).val + 10 * (digits.getD 1 0).val + (digits.getD 2 0).val

/-- Optional white space. -/
structure Blanks where
  text : Text
  areBlank : ∀ symbol ∈ text, symbol = ' ' ∨ symbol = '\t'

def Blanks.none : Blanks := ⟨[], List.forall_mem_nil _⟩

/-- A range, or the wildcard, with an optional weight. -/
structure WeightedRange where
  range : Option LanguageRange
  weight : Option (Blanks × Blanks × Weight)

namespace WeightedRange

/-- A range without a weight has the weight 1. -/
def thousandths (weighted : WeightedRange) : Nat :=
  match weighted.weight with
  | none => 1000
  | some (_, _, weight) => weight.thousandths

def rangeText (weighted : WeightedRange) : Text :=
  match weighted.range with
  | none => ['*']
  | some range => range.text

def weightText (weighted : WeightedRange) : Text :=
  match weighted.weight with
  | none => []
  | some (before, after, weight) =>
      before.text ++ ';' :: (after.text ++ 'q' :: '=' :: weight.text)

end WeightedRange

/-- A well-formed value of the header: its ranges, and the blanks around the commas. -/
structure AcceptLanguage where
  first : WeightedRange
  others : List (Blanks × Blanks × WeightedRange)

namespace AcceptLanguage

def otherText (other : Blanks × Blanks × WeightedRange) : Text :=
  other.1.text ++ ',' :: (other.2.1.text ++ (other.2.2.rangeText ++ other.2.2.weightText))

/-- The header behind the first range. -/
def rest (header : AcceptLanguage) : Text :=
  header.first.weightText ++ header.others.flatMap otherText

def text (header : AcceptLanguage) : Text := header.first.rangeText ++ header.rest

def ranges (header : AcceptLanguage) : List WeightedRange :=
  header.first :: header.others.map fun other => other.2.2

/-- The first range with the greatest weight, if this is a language and its weight is not 0. -/
def preferred (header : AcceptLanguage) : Option LanguageRange :=
  match header.ranges.argmax WeightedRange.thousandths with
  | none => none
  | some weighted => if weighted.thousandths = 0 then none else weighted.range

end AcceptLanguage

/-! ### What should come out -/

/-- The supported languages as a list, which is empty where the field is null. -/
def supportedList (supportedLanguages : Option Text) : List Text :=
  match supportedLanguages with
  | none => []
  | some supportedLanguages => Text.split supportedLanguages ','

/-- Both codes stand for one language. -/
def SameLanguage (language other : Text) : Prop :=
  convertOldISOCodes language = convertOldISOCodes other

/-- The request has no parameter, and its header prefers the range. -/
structure LocaleRequest.Prefers (request : LocaleRequest) (header : AcceptLanguage)
    (range : LanguageRange) : Prop where
  noParameter : request.lang = none
  isHeader : request.acceptLanguage = some header.text
  isPreferred : header.preferred = some range

/-- The resolver returns English or a supported language, and the language that a well-formed header
prefers if that one is supported. -/
def ResolvesRightly (supportedLanguages : Option Text) (request : LocaleRequest) : Prop :=
  ∃ locale, resolveLocale supportedLanguages request = .ok locale ∧
    (locale = .english ∨ locale.language ∈ supportedList supportedLanguages) ∧
    ∀ header range, request.Prefers header range →
      (∃ supported ∈ supportedList supportedLanguages, SameLanguage supported range.primary) →
        SameLanguage locale.language range.primary

/-- The text is made of one separator only. -/
def OnlyOf (separator : Char) (text : Text) : Prop :=
  text ≠ [] ∧ ∀ symbol ∈ text, symbol = separator

/-- The hyphen, or the underscore for a text without hyphens. -/
def separatorOf (text : Text) : Char := if '-' ∈ text then '-' else '_'

/-- What stands before the first separator. -/
def beforeSeparator (text : Text) : Text := text.takeWhile (· ≠ separatorOf text)

/-- The first range is this language, and it is followed by its region: behind a hyphen, or behind
an underscore when the header has no hyphen. Or it is all that there is. -/
def AcceptLanguage.IsRead (header : AcceptLanguage) (range : LanguageRange) : Prop :=
  header.first.range = some range ∧
    match range.subtags with
    | [] => header.rest = []
    | (separator, _) :: _ => separator = '-' ∨ '-' ∉ header.text

/-- The header is not one of separators only. And a well-formed one that prefers a supported
language begins with it and the language is listed in the form that locales have, or that language
is English and what stands before the separator is not listed. -/
def ReadsLanguage (supportedLanguages : Option Text) (request : LocaleRequest) : Prop :=
  (supportedLanguages = none ∨ request.lang ≠ none ∨
    ∀ header ∈ request.acceptLanguage, ¬ OnlyOf '-' header ∧ ¬ OnlyOf '_' header) ∧
  ∀ header range, request.Prefers header range →
    (∃ supported ∈ supportedList supportedLanguages, SameLanguage supported range.primary) →
      (∃ first, header.IsRead first ∧ SameLanguage first.primary range.primary ∧
        convertOldISOCodes range.primary ∈ supportedList supportedLanguages) ∨
      (SameLanguage ['e', 'n'] range.primary ∧
        convertOldISOCodes (beforeSeparator header.text) ∉ supportedList supportedLanguages)

/-! ### Splitting -/

section Split

variable {separator : Char} {text : Text}

theorem splitOn_eq_takeWhile (separator : Char) (text : Text) :
    ∃ others, text.splitOn separator = text.takeWhile (· ≠ separator) :: others := by
  induction text with
  | nil => exact ⟨[], List.splitOn_nil separator⟩
  | cons symbol rest inductionHypothesis =>
      obtain ⟨others, split⟩ := inductionHypothesis
      rw [List.splitOn_cons_eq_if_modifyHead, List.takeWhile_cons]
      by_cases isSeparator : symbol = separator
      · rw [if_pos (beq_iff_eq.mpr isSeparator),
          if_neg (decide_eq_true_iff.not.mpr (not_not_intro isSeparator))]
        exact ⟨_, rfl⟩
      · rw [if_neg (beq_iff_eq.not.mpr isSeparator), if_pos (decide_eq_true isSeparator), split]
        exact ⟨others, rfl⟩

/-- All parts are empty exactly if there are separators only. -/
theorem splitOn_isEmpty_iff (separator : Char) (text : Text) :
    (∀ part ∈ text.splitOn separator, part.isEmpty) ↔ ∀ symbol ∈ text, symbol = separator := by
  induction text with
  | nil =>
      rw [List.splitOn_nil]
      exact iff_of_true (List.forall_mem_singleton.mpr rfl) (List.forall_mem_nil _)
  | cons symbol rest inductionHypothesis =>
      rw [List.splitOn_cons_eq_if_modifyHead, List.forall_mem_cons]
      by_cases isSeparator : symbol = separator
      · rw [if_pos (beq_iff_eq.mpr isSeparator), List.forall_mem_cons, inductionHypothesis]
        exact and_congr_left' (iff_of_true rfl isSeparator)
      · obtain ⟨others, split⟩ := splitOn_eq_takeWhile separator rest
        rw [if_neg (beq_iff_eq.not.mpr isSeparator), split, List.modifyHead_cons,
          List.forall_mem_cons]
        exact iff_of_false (fun empty => Bool.false_ne_true empty.1)
          fun only => isSeparator only.1

/-- A text of separators only has no parts. -/
theorem firstElement_split_of_onlyOf (only : OnlyOf separator text) :
    firstElement (Text.split text separator) = .error .arrayIndexOutOfBoundsException := by
  obtain ⟨nonempty, same⟩ := only
  obtain ⟨symbol, member⟩ := List.exists_mem_of_ne_nil text nonempty
  rw [Text.split, if_pos (same symbol member ▸ member),
    List.rdropWhile_eq_nil_iff.mpr ((splitOn_isEmpty_iff separator text).mpr same)]
  rfl

/-- The first part of another text is what stands before the first separator. -/
theorem firstElement_split (member : separator ∈ text) (other : ¬ OnlyOf separator text) :
    firstElement (Text.split text separator) = .ok (text.takeWhile (· ≠ separator)) := by
  have parts : (text.splitOn separator).rdropWhile List.isEmpty ≠ [] := fun none =>
    other ⟨List.ne_nil_of_mem member,
      (splitOn_isEmpty_iff separator text).mp (List.rdropWhile_eq_nil_iff.mp none)⟩
  obtain ⟨others, split⟩ := splitOn_eq_takeWhile separator text
  rw [Text.split, if_pos member]
  obtain ⟨first, rest, isParts⟩ := List.exists_cons_of_ne_nil parts
  have begins := List.rdropWhile_prefix List.isEmpty (text.splitOn separator)
  rw [isParts, split, List.cons_prefix_cons] at begins
  rw [isParts, begins.1]
  rfl

/-- A header of separators only has no language. -/
theorem headerLanguage_of_onlyOf (only : OnlyOf '-' text ∨ OnlyOf '_' text) :
    headerLanguage text = .error .arrayIndexOutOfBoundsException := by
  rcases only with hyphens | underscores
  · obtain ⟨symbol, member⟩ := List.exists_mem_of_ne_nil text hyphens.1
    rw [headerLanguage, if_pos (hyphens.2 symbol member ▸ member)]
    exact firstElement_split_of_onlyOf hyphens
  · obtain ⟨symbol, member⟩ := List.exists_mem_of_ne_nil text underscores.1
    have noHyphen : '-' ∉ text := fun isHyphen =>
      absurd (underscores.2 '-' isHyphen) (by decide)
    rw [headerLanguage, if_neg noHyphen, if_pos (underscores.2 symbol member ▸ member)]
    exact firstElement_split_of_onlyOf underscores

theorem headerLanguage_eq (notHyphens : ¬ OnlyOf '-' text) (notUnderscores : ¬ OnlyOf '_' text) :
    headerLanguage text = .ok (beforeSeparator text) := by
  unfold headerLanguage beforeSeparator separatorOf
  by_cases hyphen : '-' ∈ text
  · simp only [if_pos hyphen]
    exact firstElement_split hyphen notHyphens
  by_cases underscore : '_' ∈ text
  · simp only [if_neg hyphen, if_pos underscore]
    exact firstElement_split underscore notUnderscores
  · simp only [if_neg hyphen, if_neg underscore]
    refine congrArg Except.ok (List.takeWhile_eq_self_iff.mpr fun symbol member => ?_).symm
    exact decide_eq_true fun isUnderscore => underscore (isUnderscore ▸ member)

end Split

/-! ### Well-formed headers -/

theorem isAlpha_iff (symbol : Char) : symbol.isAlpha = true ↔
    (65 ≤ symbol.toNat ∧ symbol.toNat ≤ 90) ∨ (97 ≤ symbol.toNat ∧ symbol.toNat ≤ 122) := by
  show (decide (65 ≤ symbol.toNat ∧ symbol.toNat ≤ 90) ||
    (decide (97 ≤ symbol.toNat) && decide (symbol.toNat ≤ 122))) = true ↔ _
  rw [Bool.or_eq_true, Bool.and_eq_true, decide_eq_true_iff, decide_eq_true_iff,
    decide_eq_true_iff]

theorem toNat_toLower (symbol : Char) : symbol.toLower.toNat =
    if 65 ≤ symbol.toNat ∧ symbol.toNat ≤ 90 then symbol.toNat + 32 else symbol.toNat := by
  unfold Char.toLower
  split
  · rename_i upper
    have bounds : 65 ≤ symbol.toNat ∧ symbol.toNat ≤ 90 := upper
    rw [if_pos bounds]
    show (symbol.val + 32).toNat = symbol.val.toNat + 32
    rw [UInt32.toNat_add]
    exact Nat.mod_eq_of_lt (Nat.lt_of_le_of_lt (Nat.add_le_add_right bounds.2 32) (by decide))
  · rename_i notUpper
    exact (if_neg notUpper).symm

theorem isAlpha_toLower (symbol : Char) : symbol.toLower.isAlpha = symbol.isAlpha := by
  rw [Bool.eq_iff_iff, isAlpha_iff, isAlpha_iff, toNat_toLower]
  split <;> omega

/-- A code is a word exactly if its converted form is. -/
theorem forall_isAlpha_convertOldISOCodes (language : Text) :
    (∀ symbol ∈ convertOldISOCodes language, symbol.isAlpha) ↔
      ∀ symbol ∈ language, symbol.isAlpha := by
  have lower : (∀ symbol ∈ language.map Char.toLower, symbol.isAlpha) ↔
      ∀ symbol ∈ language, symbol.isAlpha := by
    rw [List.forall_mem_map]
    simp only [isAlpha_toLower]
  have new : [['h', 'e'], ['y', 'i'], ['i', 'd']].all isAlphaString = true := by decide
  have old : [['i', 'w'], ['j', 'i'], ['i', 'n']].all isAlphaString = true := by decide
  rw [← lower]
  rcases convertOldISOCodes_cases language with ⟨isNew, isOld⟩ | ⟨-, same⟩
  · exact iff_of_true (List.all_eq_true.mp (List.all_eq_true.mp old _ isOld))
      (List.all_eq_true.mp (List.all_eq_true.mp new _ isNew))
  · rw [same]

theorem SameLanguage.forall_isAlpha {language other : Text} (same : SameLanguage language other)
    (isAlpha : ∀ symbol ∈ other, symbol.isAlpha) : ∀ symbol ∈ language, symbol.isAlpha := by
  rw [← forall_isAlpha_convertOldISOCodes, same, forall_isAlpha_convertOldISOCodes]
  exact isAlpha

/-- What can stand directly behind a range. -/
def IsDelimiter (symbol : Char) : Prop := symbol ∈ [' ', '\t', ';', ',']

instance : DecidablePred IsDelimiter := fun symbol =>
  inferInstanceAs (Decidable (symbol ∈ [' ', '\t', ';', ',']))

theorem IsDelimiter.plain {symbol : Char} (isDelimiter : IsDelimiter symbol) :
    symbol.isAlpha = false ∧ symbol ≠ '-' ∧ symbol ≠ '_' := by
  simp only [IsDelimiter, List.mem_cons, List.not_mem_nil, or_false] at isDelimiter
  rcases isDelimiter with rfl | rfl | rfl | rfl <;> decide

section Headers

variable {header : AcceptLanguage} {range : LanguageRange}

theorem blanks_append_eq_cons (blanks : Blanks) (delimiter : Char)
    (isDelimiter : IsDelimiter delimiter) (tail : Text) :
    ∃ symbol others, blanks.text ++ delimiter :: tail = symbol :: others ∧
      IsDelimiter symbol := by
  obtain ⟨text, areBlank⟩ := blanks
  cases text with
  | nil => exact ⟨delimiter, tail, rfl, isDelimiter⟩
  | cons symbol others =>
      refine ⟨symbol, others ++ delimiter :: tail, rfl, ?_⟩
      rcases areBlank symbol List.mem_cons_self with isSpace | isTab
      · exact isSpace ▸ List.mem_cons_self
      · exact isTab ▸ List.mem_cons_of_mem _ List.mem_cons_self

theorem weightText_cases (weighted : WeightedRange) :
    weighted.weightText = [] ∨
      ∃ symbol others, weighted.weightText = symbol :: others ∧ IsDelimiter symbol := by
  obtain ⟨range, weight⟩ := weighted
  cases weight with
  | none => exact .inl rfl
  | some weight => exact .inr (blanks_append_eq_cons weight.1 ';' (by decide) _)

/-- The first range ends with the header or before a delimiter. -/
theorem rest_cases (header : AcceptLanguage) :
    header.rest = [] ∨ ∃ symbol others, header.rest = symbol :: others ∧ IsDelimiter symbol := by
  rw [AcceptLanguage.rest]
  rcases weightText_cases header.first with noWeight | ⟨symbol, tail, begins, isDelimiter⟩
  · rw [noWeight, List.nil_append]
    cases header.others with
    | nil => exact .inl rfl
    | cons other others =>
        obtain ⟨symbol, tail, begins, isDelimiter⟩ :
            ∃ symbol tail, AcceptLanguage.otherText other = symbol :: tail ∧ IsDelimiter symbol :=
          blanks_append_eq_cons other.1 ',' (by decide) _
        rw [List.flatMap_cons, begins, List.cons_append]
        exact .inr ⟨symbol, _, rfl, isDelimiter⟩
  · rw [begins, List.cons_append]
    exact .inr ⟨symbol, _, rfl, isDelimiter⟩

/-- No separator is in the name of a language. -/
theorem primary_ne_separator (range : LanguageRange) {separator : Char}
    (notAlpha : separator.isAlpha = false) :
    ∀ symbol ∈ range.primary, decide (symbol ≠ separator) = true := by
  intro symbol member
  refine decide_eq_true fun isSeparator => ?_
  have isAlpha := range.isPrimary.2.2 symbol member
  rw [isSeparator, notAlpha] at isAlpha
  exact Bool.false_ne_true isAlpha

theorem text_of_range (isRange : header.first.range = some range) :
    header.text = range.primary ++ ((range.subtags.flatMap fun subtag => subtag.1 :: subtag.2) ++
      header.rest) := by
  rw [AcceptLanguage.text, WeightedRange.rangeText, isRange]
  exact List.append_assoc _ _ _

theorem isAlpha_separatorOf (text : Text) : (separatorOf text).isAlpha = false := by
  rw [separatorOf]
  split <;> decide

/-- In a header that begins with a language, the separator is looked for behind it. -/
theorem beforeSeparator_of_range (isRange : header.first.range = some range) :
    beforeSeparator header.text = range.primary ++
      ((range.subtags.flatMap fun subtag => subtag.1 :: subtag.2) ++ header.rest).takeWhile
        (· ≠ separatorOf header.text) := by
  rw [beforeSeparator]
  generalize isSeparator : separatorOf header.text = separator
  have notAlpha : separator.isAlpha = false := isSeparator ▸ isAlpha_separatorOf header.text
  rw [text_of_range isRange]
  exact List.takeWhile_append_of_pos (primary_ne_separator range notAlpha)

theorem mem_takeWhile_ne {symbol separator : Char} (other : symbol ≠ separator)
    (others : Text) : symbol ∈ (symbol :: others).takeWhile (· ≠ separator) := by
  rw [List.takeWhile_cons, if_pos (decide_eq_true other)]
  exact List.mem_cons_self

theorem ne_separatorOf {symbol : Char} (notHyphen : symbol ≠ '-') (notUnderscore : symbol ≠ '_')
    (text : Text) : symbol ≠ separatorOf text := by
  rw [separatorOf]
  split
  · exact notHyphen
  · exact notUnderscore

/-- The wildcard stands before the separator. -/
theorem wildcard_mem_beforeSeparator (isWildcard : header.first.range = none) :
    '*' ∈ beforeSeparator header.text := by
  have begins : header.text = '*' :: header.rest := by
    rw [AcceptLanguage.text, WeightedRange.rangeText, isWildcard]
    rfl
  have other : '*' ≠ separatorOf ('*' :: header.rest) :=
    ne_separatorOf (by decide) (by decide) _
  rw [beforeSeparator, begins]
  exact mem_takeWhile_ne other header.rest

/-- Where letters only stand between a language without subtags and the separator, the header ends
with that language. -/
theorem rest_eq_nil_of_forall_isAlpha
    (isAlpha : ∀ symbol ∈ header.rest.takeWhile (· ≠ separatorOf header.text), symbol.isAlpha) :
    header.rest = [] := by
  refine (rest_cases header).resolve_right ?_
  rintro ⟨symbol, others, begins, isDelimiter⟩
  obtain ⟨notAlpha, notHyphen, notUnderscore⟩ := isDelimiter.plain
  rw [begins] at isAlpha
  have isLetter := isAlpha symbol
    (mem_takeWhile_ne (ne_separatorOf notHyphen notUnderscore header.text) others)
  exact Bool.false_ne_true (notAlpha.symm.trans isLetter)

/-- A part without separators in front of the separator is the name of the first language. -/
theorem exists_isRead (isAlpha : ∀ symbol ∈ beforeSeparator header.text, symbol.isAlpha) :
    ∃ range, header.IsRead range := by
  cases isRange : header.first.range with
  | none => exact absurd (isAlpha '*' (wildcard_mem_beforeSeparator isRange)) (by decide)
  | some range =>
      refine ⟨range, isRange, ?_⟩
      rw [beforeSeparator_of_range isRange] at isAlpha
      have behind := fun symbol member => isAlpha symbol (List.mem_append_right _ member)
      cases subtags : range.subtags with
      | nil =>
          rw [subtags, List.flatMap_nil, List.nil_append] at behind
          exact rest_eq_nil_of_forall_isAlpha behind
      | cons subtag others =>
          rw [subtags, List.flatMap_cons, List.cons_append, List.cons_append] at behind
          show subtag.1 = '-' ∨ '-' ∉ header.text
          rw [or_iff_not_imp_left]
          intro notHyphen hyphen
          have isUnderscore : subtag.1 = '_' :=
            (range.areSubtags subtag (subtags ▸ List.mem_cons_self)).1.resolve_left notHyphen
          have other : subtag.1 ≠ separatorOf header.text := by
            rw [separatorOf, if_pos hyphen]
            exact notHyphen
          have isLetter := behind subtag.1 (mem_takeWhile_ne other _)
          rw [isUnderscore] at isLetter
          exact absurd isLetter (by decide)

/-- Where the first language is read, it stands before the separator. -/
theorem AcceptLanguage.IsRead.beforeSeparator_eq (read : header.IsRead range) :
    beforeSeparator header.text = range.primary := by
  obtain ⟨isRange, followed⟩ := read
  have nothing : ((range.subtags.flatMap fun subtag => subtag.1 :: subtag.2) ++
      header.rest).takeWhile (· ≠ separatorOf header.text) = [] := by
    cases subtags : range.subtags with
    | nil =>
        rw [subtags] at followed
        rw [followed]
        rfl
    | cons subtag others =>
        rw [subtags] at followed
        have member : subtag.1 ∈ header.text := by
          rw [text_of_range isRange, subtags, List.flatMap_cons, List.cons_append,
            List.cons_append]
          exact List.mem_append_right _ List.mem_cons_self
        have isFirst : subtag.1 = separatorOf header.text := by
          rcases (range.areSubtags subtag (subtags ▸ List.mem_cons_self)).1 with hyphen | underscore
          · rw [separatorOf, if_pos (hyphen ▸ member), hyphen]
          · have noHyphen : '-' ∉ header.text :=
              followed.resolve_left fun hyphen => absurd (underscore.symm.trans hyphen) (by decide)
            rw [separatorOf, if_neg noHyphen, underscore]
        rw [List.flatMap_cons, List.cons_append, List.cons_append, List.takeWhile_cons,
          if_neg (decide_eq_true_iff.not.mpr (not_not_intro isFirst))]
  rw [beforeSeparator_of_range isRange, nothing, List.append_nil]

end Headers

/-! ### When the language is right -/

section Resolution

variable {supportedLanguages : Option Text} {request : LocaleRequest} {header : AcceptLanguage}
  {range : LanguageRange}

theorem sameLanguage_locale {language : Text} (locale : Locale) :
    SameLanguage locale.language language ↔ locale.language = convertOldISOCodes language := by
  rw [SameLanguage, locale.converted]

/-- English, or a supported language. -/
theorem supportedOrEnglish_cases (supported : List Text) (locale : Locale) :
    supportedOrEnglish supported locale = .english ∨
      (supportedOrEnglish supported locale).language ∈ supported := by
  rw [supportedOrEnglish]
  split
  · rename_i isSupported
    exact .inr isSupported
  · exact .inl rfl

/-- The language before the separator is the preferred one. -/
theorem sameLanguage_supportedOrEnglish_iff (supported : List Text) :
    SameLanguage (supportedOrEnglish supported
        (.ofLanguage (beforeSeparator header.text))).language range.primary ↔
      (∃ first, header.IsRead first ∧ SameLanguage first.primary range.primary ∧
        convertOldISOCodes range.primary ∈ supported) ∨
      (SameLanguage ['e', 'n'] range.primary ∧
        convertOldISOCodes (beforeSeparator header.text) ∉ supported) := by
  rw [sameLanguage_locale, supportedOrEnglish]
  by_cases isSupported : convertOldISOCodes (beforeSeparator header.text) ∈ supported
  · rw [if_pos (show (Locale.ofLanguage _).language ∈ supported from isSupported),
      or_iff_left fun english => english.2 isSupported]
    constructor
    · intro same
      obtain ⟨first, read⟩ := exists_isRead
        (SameLanguage.forall_isAlpha same range.isPrimary.2.2)
      refine ⟨first, read, ?_, same ▸ isSupported⟩
      rw [← read.beforeSeparator_eq]
      exact same
    · rintro ⟨first, read, same, -⟩
      show convertOldISOCodes (beforeSeparator header.text) = _
      rw [read.beforeSeparator_eq]
      exact same
  · rw [if_neg (show (Locale.ofLanguage _).language ∉ supported from isSupported)]
    constructor
    · exact fun english => .inr ⟨english, isSupported⟩
    · rintro (⟨first, read, same, listed⟩ | ⟨english, -⟩)
      · rw [read.beforeSeparator_eq, same] at isSupported
        exact absurd listed isSupported
      · exact english

/-- A well-formed header is not blank. -/
theorem hasText_text (header : AcceptLanguage) : Text.hasText header.text = true := by
  cases isRange : header.first.range with
  | none =>
      rw [AcceptLanguage.text, WeightedRange.rangeText, isRange]
      rfl
  | some range =>
      obtain ⟨symbol, member⟩ := List.exists_mem_of_ne_nil _ range.isPrimary.1
      rw [Text.hasText, List.any_eq_true]
      refine ⟨symbol, text_of_range isRange ▸ List.mem_append_left _ member, ?_⟩
      rw [not_isWhitespace_of_isAlphanum
        (Bool.or_eq_true_iff.mpr (.inl (range.isPrimary.2.2 symbol member)))]
      rfl

theorem hasText_of_onlyOf {text : Text} (only : OnlyOf '-' text ∨ OnlyOf '_' text) :
    Text.hasText text = true := by
  have of_only {separator : Char} (only : OnlyOf separator text)
      (solid : Character.isWhitespace separator = false) : Text.hasText text = true := by
    obtain ⟨symbol, member⟩ := List.exists_mem_of_ne_nil text only.1
    rw [Text.hasText, List.any_eq_true]
    exact ⟨symbol, member, by rw [only.2 symbol member, solid]; rfl⟩
  exact only.elim (fun hyphens => of_only hyphens (by decide))
    fun underscores => of_only underscores (by decide)

/-- A header with text that does not throw gives the language before its separator. -/
theorem resolveLocale_header (supported : Text) {acceptHeaderValue : Text}
    (noParameter : request.lang = none)
    (isHeader : request.acceptLanguage = some acceptHeaderValue)
    (hasText : Text.hasText acceptHeaderValue = true) :
    resolveLocale (some supported) request = (headerLanguage acceptHeaderValue).map fun lang =>
      supportedOrEnglish (Text.split supported ',') (.ofLanguage lang) := by
  rw [resolveLocale]
  simp only [noParameter, isHeader, hasText, if_true]
  rfl

/-- Where no well-formed header prefers a language, nothing is asked of the locale but that it is
English or supported. -/
theorem resolvesRightly_iff_of_not_prefers {locale : Locale}
    (returned : resolveLocale supportedLanguages request = .ok locale)
    (supported : locale = .english ∨ locale.language ∈ supportedList supportedLanguages)
    (readable : supportedLanguages = none ∨ request.lang ≠ none ∨
      ∀ header ∈ request.acceptLanguage, ¬ OnlyOf '-' header ∧ ¬ OnlyOf '_' header)
    (none : ∀ header range, ¬ request.Prefers header range) :
    ResolvesRightly supportedLanguages request ↔ ReadsLanguage supportedLanguages request :=
  iff_of_true
    ⟨locale, returned, supported, fun header range prefers => absurd prefers (none header range)⟩
    ⟨readable, fun header range prefers => absurd prefers (none header range)⟩

/-- Among the headers with text those of separators only throw, and the others give the language
before their separator. -/
theorem resolvesRightly_iff_of_hasText {supported acceptHeaderValue : Text}
    (noParameter : request.lang = none) (isHeader : request.acceptLanguage = some acceptHeaderValue)
    (hasText : Text.hasText acceptHeaderValue = true) :
    ResolvesRightly (some supported) request ↔ ReadsLanguage (some supported) request := by
  have resolved := resolveLocale_header supported noParameter isHeader hasText
  by_cases only : OnlyOf '-' acceptHeaderValue ∨ OnlyOf '_' acceptHeaderValue
  · rw [headerLanguage_of_onlyOf only] at resolved
    refine iff_of_false ?_ ?_
    · rintro ⟨locale, returned, -⟩
      rw [resolved] at returned
      cases returned
    · rintro ⟨readable, -⟩
      rcases readable with isNone | parameter | notOnly
      · cases isNone
      · exact parameter noParameter
      · exact only.elim (notOnly _ isHeader).1 (notOnly _ isHeader).2
  · obtain ⟨notHyphens, notUnderscores⟩ := not_or.mp only
    rw [headerLanguage_eq notHyphens notUnderscores] at resolved
    have readable : ∀ header ∈ request.acceptLanguage,
        ¬ OnlyOf '-' header ∧ ¬ OnlyOf '_' header := by
      intro header member
      obtain rfl : acceptHeaderValue = header := Option.some.inj (isHeader.symm.trans member)
      exact ⟨notHyphens, notUnderscores⟩
    constructor
    · rintro ⟨locale, returned, -, right⟩
      refine ⟨.inr (.inr readable), fun header range prefers listed => ?_⟩
      have same := right header range prefers listed
      obtain rfl := Except.ok.inj (resolved.symm.trans returned)
      obtain rfl := Option.some.inj (isHeader.symm.trans prefers.isHeader)
      exact (sameLanguage_supportedOrEnglish_iff _).mp same
    · rintro ⟨-, right⟩
      refine ⟨_, resolved, supportedOrEnglish_cases _ _, fun header range prefers listed => ?_⟩
      obtain rfl := Option.some.inj (isHeader.symm.trans prefers.isHeader)
      exact (sameLanguage_supportedOrEnglish_iff _).mpr (right header range prefers listed)

/-- With a parameter the header is not read. -/
theorem resolvesRightly_iff_of_parameter (supported : Text) {currentLanguage : Text}
    (parameter : request.lang = some currentLanguage) :
    ResolvesRightly (some supported) request ↔ ReadsLanguage (some supported) request := by
  have returned : resolveLocale (some supported) request =
      .ok (supportedOrEnglish (Text.split supported ',') (.forLanguageTag currentLanguage)) := by
    rw [resolveLocale]
    simp only [parameter]
  have present : request.lang ≠ none := parameter ▸ nofun
  exact resolvesRightly_iff_of_not_prefers returned (supportedOrEnglish_cases _ _)
    (.inr (.inl present)) fun header range prefers => present prefers.noParameter

/-- A missing or blank header is not a well-formed one. -/
theorem resolvesRightly_iff_of_blank (supported : Text) (noParameter : request.lang = none)
    (blank : ∀ acceptHeaderValue ∈ request.acceptLanguage,
      Text.hasText acceptHeaderValue = false) :
    ResolvesRightly (some supported) request ↔ ReadsLanguage (some supported) request := by
  have returned : resolveLocale (some supported) request = .ok .english := by
    rw [resolveLocale]
    cases isHeader : request.acceptLanguage with
    | none => simp only [noParameter]
    | some acceptHeaderValue =>
        simp only [noParameter, blank acceptHeaderValue isHeader, Bool.false_eq_true, if_false]
  refine resolvesRightly_iff_of_not_prefers returned (.inl rfl) (.inr (.inr ?_)) ?_
  · intro header member
    refine not_or.mp fun only => ?_
    exact Bool.false_ne_true ((blank header member).symm.trans (hasText_of_onlyOf only))
  · intro header range prefers
    have noText := blank header.text prefers.isHeader
    exact Bool.false_ne_true (noText.symm.trans (hasText_text header))

/-- A request is answered in the right language exactly if the resolver can read it. -/
theorem resolvesRightly_iff (supportedLanguages : Option Text) (request : LocaleRequest) :
    ResolvesRightly supportedLanguages request ↔ ReadsLanguage supportedLanguages request := by
  cases supportedLanguages with
  | none =>
      refine iff_of_true ⟨.english, rfl, .inl rfl, ?_⟩ ⟨.inl rfl, ?_⟩
      · rintro header range - ⟨supported, listed, -⟩
        cases listed
      · rintro header range - ⟨supported, listed, -⟩
        cases listed
  | some supported =>
      cases parameter : request.lang with
      | some currentLanguage => exact resolvesRightly_iff_of_parameter supported parameter
      | none =>
          by_cases hasText : ∃ acceptHeaderValue ∈ request.acceptLanguage,
              Text.hasText acceptHeaderValue = true
          · obtain ⟨acceptHeaderValue, isHeader, hasText⟩ := hasText
            exact resolvesRightly_iff_of_hasText parameter isHeader hasText
          · refine resolvesRightly_iff_of_blank supported parameter fun value isHeader => ?_
            exact Bool.eq_false_iff.mpr fun isText => hasText ⟨value, isHeader, isText⟩

end Resolution

example : resolveLocale (some ['e', 'n', ',', 'e', 's']) ⟨none, some ['e', 's', '_', 'E', 'S']⟩ =
    .ok (.ofLanguage ['e', 's']) := by
  decide +kernel

/-- A language without subtags. -/
def plainRange (first second : Char) (areLetters : first.isAlpha ∧ second.isAlpha) :
    LanguageRange where
  primary := [first, second]
  subtags := []
  isPrimary := ⟨nofun, show 2 ≤ 8 by decide, by simpa using areLetters⟩
  areSubtags := List.forall_mem_nil _

/-- The header "fr,en;q=0.5". -/
def frenchFirst : AcceptLanguage where
  first := { range := some (plainRange 'f' 'r' (by decide)), weight := none }
  others := [(.none, .none,
    { range := some (plainRange 'e' 'n' (by decide))
      weight := some (.none, .none,
        { units := 0, decimals := some [5], short := by decide, atMostOne := by decide }) })]

/-- A header of one hyphen throws, and a client that prefers French is answered in English. -/
theorem not_resolvesRightly :
    ¬ ResolvesRightly (some ['e', 'n', ',', 'f', 'r']) ⟨none, some ['-']⟩ ∧
      ¬ ResolvesRightly (some ['e', 'n', ',', 'f', 'r']) ⟨none, some frenchFirst.text⟩ := by
  constructor
  · rintro ⟨locale, returned, -⟩
    have throws : resolveLocale (some ['e', 'n', ',', 'f', 'r']) ⟨none, some ['-']⟩ =
        .error .arrayIndexOutOfBoundsException := by decide +kernel
    rw [throws] at returned
    cases returned
  · rintro ⟨locale, returned, -, right⟩
    have english : resolveLocale (some ['e', 'n', ',', 'f', 'r']) ⟨none, some frenchFirst.text⟩ =
        .ok .english := by decide +kernel
    rw [english] at returned
    obtain rfl := Except.ok.inj returned
    have listed : ['f', 'r'] ∈ supportedList (some ['e', 'n', ',', 'f', 'r']) := by decide +kernel
    have same : SameLanguage ['e', 'n'] ['f', 'r'] :=
      right frenchFirst (plainRange 'f' 'r' (by decide)) ⟨rfl, rfl, rfl⟩ ⟨['f', 'r'], listed, rfl⟩
    exact absurd same (by unfold SameLanguage; decide)

end GraffiTab
