import GilStreaming.Client.ServerInfo
import GilStreaming.Lib.QSettings
import Mathlib.Data.List.GetD
import Mathlib.Order.PiLex

/-!
# GilStreaming.Client.VersionCompare

The two orders of version texts: `AutoUpdateChecker::compareVersion` in
`app/backend/autoupdatechecker.cpp`, and the loop of `CompatFetcher::isGfeVersionSupported` in
`app/settings/compatfetcher.cpp`.

A version with zeros behind its last number is a sequence of integers, and `compareVersion` is the
lexicographic order of those sequences (`isComparison_compareVersion`). On two versions in decimal
the other loop leaves by the same number (`supportedFrom_eq`). Where it meets a component that is
not decimal it allows the version.
-/

namespace GilStreaming

namespace QString

/-- `s.toInt(&ok)`, if it is `ok`. -/
def toInt? (s : String) : Option Int :=
  let (negative, digits) := splitSign (trimSpace s.toList)
  if digits.isEmpty || !digits.all Char.isDigit then none
  else
    let n : Int := decimalValue 0 digits
    let value := if negative then -n else n
    if value < minInt32 ∨ maxInt32 < value then none else some value

theorem toInt_eq (s : String) : toInt s = (toInt? s).getD 0 := by
  rw [toInt, toInt?]
  dsimp only
  split_ifs <;> rfl

end QString

namespace Client

namespace AutoUpdateChecker

def parseStringToVersionQuad (s : String) : List Int := (QString.split s '.').map QString.toInt

/-- The loop of `compareVersion`. Missing decimal places are zero. -/
def compareFrom (version1 version2 : List Int) (i : Nat) : Int :=
  let v1Val := version1.getD i 0
  let v2Val := version2.getD i 0
  if version1.length ≤ i ∧ version2.length ≤ i then 0
  else if v1Val < v2Val then -1
  else if v2Val < v1Val then 1
  else compareFrom version1 version2 (i + 1)
termination_by max version1.length version2.length - i

def compareVersion (version1 version2 : List Int) : Int := compareFrom version1 version2 0

end AutoUpdateChecker

namespace CompatFetcher

/-- `COMPAT_KEY COMPAT_VERSION`. -/
def compatKey : SettingsKey := [.name "latestsupportedversion-v1"]

def latestSupportedVersion (settings : QSettings) : String :=
  QVariant.toString (settings compatKey)

/-- What the loop reads of a version at `i`, if that is a number it takes. -/
def component (quad : List String) (i : Nat) : Option Int :=
  match quad[i]? with
  | none => some 0
  | some text =>
      match QString.toInt? text with
      | none => none
      | some value => if value < 0 then none else some value

/-- The loop of `isGfeVersionSupported`. -/
def supportedFrom (gfeVersionQuad latestQuad : List String) (i : Nat) : Bool :=
  match component gfeVersionQuad i, component latestQuad i with
  | some actualVerVal, some latestSupportedVal =>
      if gfeVersionQuad.length ≤ i ∧ latestQuad.length ≤ i then true
      else if actualVerVal < latestSupportedVal then true
      else if latestSupportedVal < actualVerVal then false
      else supportedFrom gfeVersionQuad latestQuad (i + 1)
  -- A version that is not understood is allowed, to be safe.
  | _, _ => true
termination_by max gfeVersionQuad.length latestQuad.length - i

def isGfeVersionSupported (settings : QSettings) (gfeVersion : String) : Bool :=
  if (trimSpace gfeVersion.toList).isEmpty then true
  else if (latestSupportedVersion settings).isEmpty then true
  else
    let latestQuad := QString.split (latestSupportedVersion settings) '.'
    let gfeVersionQuad := QString.split gfeVersion '.'
    if gfeVersionQuad.length ≤ 1 then true
    else if latestQuad.length ≤ 1 then true
    else supportedFrom gfeVersionQuad latestQuad 0

end CompatFetcher

/-! ### Comparisons -/

section Comparison

universe u

/-- The result of a comparison of `a` with `b`. -/
def IsComparison {α : Type u} [LT α] (a b : α) (sign : Int) : Prop :=
  sign = -1 ∧ a < b ∨ sign = 0 ∧ a = b ∨ sign = 1 ∧ b < a

variable {α : Type u} [Preorder α] {a b : α} {sign sign' : Int}

namespace IsComparison

theorem swap (h : IsComparison a b sign) : IsComparison b a (-sign) := by
  obtain ⟨rfl, hlt⟩ | ⟨rfl, heq⟩ | ⟨rfl, hgt⟩ := h
  · exact .inr (.inr ⟨rfl, hlt⟩)
  · exact .inr (.inl ⟨rfl, heq.symm⟩)
  · exact .inl ⟨rfl, hgt⟩

theorem neg_iff (h : IsComparison a b sign) : sign < 0 ↔ a < b := by
  obtain ⟨rfl, hlt⟩ | ⟨rfl, rfl⟩ | ⟨rfl, hgt⟩ := h
  · exact iff_of_true (by decide) hlt
  · exact iff_of_false (by decide) (lt_irrefl _)
  · exact iff_of_false (by decide) hgt.asymm

theorem eq_zero_iff (h : IsComparison a b sign) : sign = 0 ↔ a = b := by
  obtain ⟨rfl, hlt⟩ | ⟨rfl, rfl⟩ | ⟨rfl, hgt⟩ := h
  · exact iff_of_false (by decide) hlt.ne
  · exact iff_of_true rfl rfl
  · exact iff_of_false (by decide) hgt.ne'

theorem nonpos_iff (h : IsComparison a b sign) : sign ≤ 0 ↔ a ≤ b := by
  obtain ⟨rfl, hlt⟩ | ⟨rfl, rfl⟩ | ⟨rfl, hgt⟩ := h
  · exact iff_of_true (by decide) hlt.le
  · exact iff_of_true le_rfl le_rfl
  · exact iff_of_false (by decide) hgt.not_ge

theorem unique (h : IsComparison a b sign) (h' : IsComparison a b sign') : sign = sign' := by
  obtain ⟨rfl, hlt⟩ | ⟨rfl, rfl⟩ | ⟨rfl, hgt⟩ := h
  · have hneg := h'.neg_iff.mpr hlt
    obtain ⟨rfl, -⟩ | ⟨rfl, -⟩ | ⟨rfl, -⟩ := h' <;> first | rfl | exact absurd hneg (by decide)
  · exact (h'.eq_zero_iff.mpr rfl).symm
  · have hpos := h'.swap.neg_iff.mpr hgt
    obtain ⟨rfl, -⟩ | ⟨rfl, -⟩ | ⟨rfl, -⟩ := h' <;> first | rfl | exact absurd hpos (by decide)

end IsComparison

end Comparison

/-! ### The order of versions -/

namespace AutoUpdateChecker

/-- A version as a sequence, with zeros behind its numbers. -/
def padded (version : List Int) : Lex (Nat → Int) := toLex fun i => version.getD i 0

variable {version1 version2 version3 : List Int}

theorem padded_apply (version : List Int) (i : Nat) : padded version i = version.getD i 0 := rfl

theorem padded_of_le {version : List Int} {i : Nat} (h : version.length ≤ i) :
    padded version i = 0 := by
  rw [padded_apply, List.getD_eq_default _ _ h]

/-- From `i` on, where all numbers before it are equal. -/
theorem isComparison_compareFrom (i : Nat) (h : ∀ j < i, padded version1 j = padded version2 j) :
    IsComparison (padded version1) (padded version2) (compareFrom version1 version2 i) := by
  induction i using compareFrom.induct version1 version2 with
  | case1 i hend =>
      -- Behind both versions there are only zeros.
      have heq : padded version1 = padded version2 := by
        funext j
        by_cases hj : j < i
        · exact h j hj
        · rw [padded_of_le (by omega), padded_of_le (by omega)]
      rw [compareFrom, if_pos hend]
      exact .inr (.inl ⟨rfl, heq⟩)
  | case2 i v1Val v2Val hend hlt =>
      rw [compareFrom, if_neg hend, if_pos hlt]
      exact .inl ⟨rfl, i, h, hlt⟩
  | case3 i v1Val v2Val hend hlt hgt =>
      rw [compareFrom, if_neg hend, if_neg hlt, if_pos hgt]
      exact .inr (.inr ⟨rfl, i, fun j hj => (h j hj).symm, hgt⟩)
  | case4 i v1Val v2Val hend hlt hgt ih =>
      rw [compareFrom, if_neg hend, if_neg hlt, if_neg hgt]
      refine ih fun j hj => ?_
      obtain hj | rfl := Nat.lt_succ_iff_lt_or_eq.mp hj
      · exact h j hj
      · exact le_antisymm (not_lt.mp hgt) (not_lt.mp hlt)

theorem isComparison_compareVersion (version1 version2 : List Int) :
    IsComparison (padded version1) (padded version2) (compareVersion version1 version2) :=
  isComparison_compareFrom 0 fun _ hj => absurd hj (Nat.not_lt_zero _)

end AutoUpdateChecker

/-! ### Versions in decimal -/

section Decimal

theorem isSpace_of_isDigit {c : Char} (h : c.isDigit = true) : isSpace c = false := by
  have hascii : ∀ n < 58, 48 ≤ n → isSpace (Char.ofNat n) = false := by decide
  simp only [Char.isDigit, Bool.and_eq_true, decide_eq_true_eq, UInt32.le_iff_toNat_le] at h
  rw [← Char.ofNat_toNat c]
  exact hascii c.toNat (Nat.lt_succ_of_le h.2) h.1

theorem trimSpace_ne_nil {s : List Char} {c : Char} (hmem : c ∈ s) (h : isSpace c = false) :
    trimSpace s ≠ [] := by
  rw [trimSpace, Ne, List.rdropWhile_eq_nil_iff]
  intro hall
  refine Bool.false_ne_true (h.symm.trans ?_)
  rw [← List.takeWhile_append_dropWhile (p := isSpace) (l := s), List.mem_append] at hmem
  obtain hbefore | hbehind := hmem
  · exact List.mem_takeWhile_imp hbefore
  · exact hall c hbehind

/-- A component that is a decimal number of an `int`. -/
def IsComponent (text : String) : Prop :=
  text.toList ≠ [] ∧ text.toList.all Char.isDigit = true ∧
    (decimalValue 0 text.toList : Int) ≤ maxInt32

instance : DecidablePred IsComponent := fun text =>
  inferInstanceAs (Decidable (text.toList ≠ [] ∧ text.toList.all Char.isDigit = true ∧
    (decimalValue 0 text.toList : Int) ≤ maxInt32))

/-- A version of two or more decimal components. -/
structure IsVersion (text : String) : Prop where
  components : 2 ≤ (QString.split text '.').length
  decimal : ∀ part ∈ QString.split text '.', IsComponent part

theorem IsComponent.toInt?_eq {text : String} (h : IsComponent text) :
    QString.toInt? text = some (decimalValue 0 text.toList : Int) := by
  obtain ⟨hne, hall, hmax⟩ := h
  have hdigits := List.all_eq_true.mp hall
  have htrim : trimSpace text.toList = text.toList :=
    trimSpace_eq_self ⟨fun c hc => isSpace_of_isDigit (hdigits c (List.mem_of_mem_head? hc)),
      fun c hc => isSpace_of_isDigit (hdigits c (List.mem_of_mem_getLast? hc))⟩
  have htext : ¬ (text.toList.isEmpty || !text.toList.all Char.isDigit) = true := by
    rw [hall, List.isEmpty_eq_false_iff.mpr hne]
    exact Bool.false_ne_true
  have hrange : ¬ ((decimalValue 0 text.toList : Int) < minInt32 ∨
      maxInt32 < (decimalValue 0 text.toList : Int)) := by
    unfold minInt32
    omega
  rw [QString.toInt?, htrim, splitSign_digits hdigits]
  exact (if_neg htext).trans (if_neg hrange)

/-- A version is not blank. -/
theorem IsVersion.trimSpace_ne_nil {text : String} (h : IsVersion text) :
    trimSpace text.toList ≠ [] := by
  have hlength := h.components
  rw [QString.split, List.length_map] at hlength
  obtain ⟨part, parts, hsplit⟩ := List.exists_cons_of_ne_nil (List.splitOn_ne_nil '.' text.toList)
  have hpart : part ∈ text.toList.splitOn '.' := by
    rw [hsplit]
    exact List.mem_cons_self
  obtain ⟨hne, hall, -⟩ := h.decimal (String.ofList part) (List.mem_map_of_mem hpart)
  rw [String.toList_ofList] at hne hall
  obtain ⟨c, rest, rfl⟩ := List.exists_cons_of_ne_nil hne
  exact Client.trimSpace_ne_nil ((infix_of_mem_splitOn hpart).mem List.mem_cons_self)
    (isSpace_of_isDigit (List.all_eq_true.mp hall c List.mem_cons_self))

end Decimal

/-! ### The two loops -/

namespace CompatFetcher

open AutoUpdateChecker

/-- Of a version in decimal the loop reads the numbers that the other order compares. -/
theorem component_eq {quad : List String} (h : ∀ part ∈ quad, IsComponent part) (i : Nat) :
    component quad i = some ((quad.map QString.toInt).getD i 0) := by
  rw [component, List.getD_eq_getElem?_getD, List.getElem?_map]
  cases hpart : quad[i]? with
  | none => rfl
  | some part =>
      have hvalue := (h part (List.mem_of_getElem? hpart)).toInt?_eq
      rw [Option.map_some, Option.getD_some, QString.toInt_eq, hvalue, Option.getD_some]
      dsimp only
      rw [hvalue]
      exact if_neg (Int.not_lt.mpr (Int.natCast_nonneg _))

section Loops

variable {gfeVersionQuad latestQuad : List String}

theorem supportedFrom_decimal (hgfe : ∀ part ∈ gfeVersionQuad, IsComponent part)
    (hlatest : ∀ part ∈ latestQuad, IsComponent part) (i : Nat) :
    supportedFrom gfeVersionQuad latestQuad i =
      if (gfeVersionQuad.map QString.toInt).length ≤ i ∧
          (latestQuad.map QString.toInt).length ≤ i then true
      else if (gfeVersionQuad.map QString.toInt).getD i 0 <
          (latestQuad.map QString.toInt).getD i 0 then true
      else if (latestQuad.map QString.toInt).getD i 0 <
          (gfeVersionQuad.map QString.toInt).getD i 0 then false
      else supportedFrom gfeVersionQuad latestQuad (i + 1) := by
  rw [supportedFrom, component_eq hgfe, component_eq hlatest, List.length_map, List.length_map]

/-- Both loops leave by the same number. -/
theorem supportedFrom_eq (hgfe : ∀ part ∈ gfeVersionQuad, IsComponent part)
    (hlatest : ∀ part ∈ latestQuad, IsComponent part) (i : Nat) :
    supportedFrom gfeVersionQuad latestQuad i = true ↔
      compareFrom (gfeVersionQuad.map QString.toInt) (latestQuad.map QString.toInt) i ≤ 0 := by
  induction i using compareFrom.induct (gfeVersionQuad.map QString.toInt)
    (latestQuad.map QString.toInt) with
  | case1 i hend =>
      rw [supportedFrom_decimal hgfe hlatest, compareFrom, if_pos hend, if_pos hend]
      exact iff_of_true rfl le_rfl
  | case2 i v1Val v2Val hend hlt =>
      rw [supportedFrom_decimal hgfe hlatest, compareFrom, if_neg hend, if_neg hend, if_pos hlt,
        if_pos hlt]
      exact iff_of_true rfl (by decide)
  | case3 i v1Val v2Val hend hlt hgt =>
      rw [supportedFrom_decimal hgfe hlatest, compareFrom, if_neg hend, if_neg hend, if_neg hlt,
        if_neg hlt, if_pos hgt, if_pos hgt]
      exact iff_of_false Bool.false_ne_true (by decide)
  | case4 i v1Val v2Val hend hlt hgt ih =>
      rw [supportedFrom_decimal hgfe hlatest, compareFrom, if_neg hend, if_neg hend, if_neg hlt,
        if_neg hlt, if_neg hgt, if_neg hgt]
      exact ih

end Loops

/-- None of the early exits is taken for two versions in decimal. -/
theorem isGfeVersionSupported_eq {settings : QSettings} {gfeVersion : String}
    (hgfe : IsVersion gfeVersion) (hlatest : IsVersion (latestSupportedVersion settings)) :
    isGfeVersionSupported settings gfeVersion =
      supportedFrom (QString.split gfeVersion '.')
        (QString.split (latestSupportedVersion settings) '.') 0 := by
  have hblank : ¬ (trimSpace gfeVersion.toList).isEmpty = true := by
    rw [List.isEmpty_iff]
    exact hgfe.trimSpace_ne_nil
  have hempty : ¬ (latestSupportedVersion settings).isEmpty = true := by
    intro h
    rw [String.isEmpty_iff] at h
    refine hlatest.trimSpace_ne_nil ?_
    rw [h]
    rfl
  have hgfeCount := Nat.not_le.mpr hgfe.components
  have hlatestCount := Nat.not_le.mpr hlatest.components
  rw [isGfeVersionSupported, if_neg hblank, if_neg hempty]
  exact (if_neg hgfeCount).trans (if_neg hlatestCount)

theorem isGfeVersionSupported_iff {settings : QSettings} {gfeVersion : String}
    (hgfe : IsVersion gfeVersion) (hlatest : IsVersion (latestSupportedVersion settings)) :
    isGfeVersionSupported settings gfeVersion = true ↔
      compareVersion (parseStringToVersionQuad gfeVersion)
        (parseStringToVersionQuad (latestSupportedVersion settings)) ≤ 0 := by
  rw [isGfeVersionSupported_eq hgfe hlatest]
  exact supportedFrom_eq hgfe.decimal hlatest.decimal 0

/-- A host is not supported if its version is past the latest one. -/
theorem ofServerInfo_isSupportedServerVersion {r : ServerInfoReader} {settings : QSettings}
    (hr : r.isGfeVersionSupported = isGfeVersionSupported settings) {http : NvHttp String}
    {serverInfo : String} (hgfe : IsVersion (NvComputer.ofServerInfo r http serverInfo).gfeVersion)
    (hlatest : IsVersion (latestSupportedVersion settings)) :
    (NvComputer.ofServerInfo r http serverInfo).isSupportedServerVersion = false ↔
      padded (parseStringToVersionQuad (latestSupportedVersion settings)) <
        padded (parseStringToVersionQuad
          (NvComputer.ofServerInfo r http serverInfo).gfeVersion) := by
  have hsupported : (NvComputer.ofServerInfo r http serverInfo).isSupportedServerVersion =
      isGfeVersionSupported settings (NvComputer.ofServerInfo r http serverInfo).gfeVersion := by
    rw [← hr]
    rfl
  rw [hsupported, ← Bool.not_eq_true, isGfeVersionSupported_iff hgfe hlatest,
    (isComparison_compareVersion _ _).nonpos_iff]
  exact not_le

end CompatFetcher

/-! ### Agreement -/

open AutoUpdateChecker CompatFetcher in
/-- `compareVersion` orders all versions, by their first difference, and hosts are supported up to
the latest version in that order. -/
theorem versions_agree :
    (∀ version1 version2,
      compareVersion version2 version1 = -compareVersion version1 version2 ∧
      (compareVersion version1 version2 < 0 ↔ padded version1 < padded version2) ∧
      (compareVersion version1 version2 = 0 ↔ padded version1 = padded version2)) ∧
    (∀ version1 version2 version3, compareVersion version1 version2 ≤ 0 →
      compareVersion version2 version3 ≤ 0 → compareVersion version1 version3 ≤ 0) ∧
    ∀ settings gfeVersion, IsVersion gfeVersion → IsVersion (latestSupportedVersion settings) →
      (isGfeVersionSupported settings gfeVersion = true ↔
        compareVersion (parseStringToVersionQuad gfeVersion)
          (parseStringToVersionQuad (latestSupportedVersion settings)) ≤ 0) := by
  refine ⟨fun version1 version2 => ?_, fun version1 version2 version3 h12 h23 => ?_,
    fun settings gfeVersion hgfe hlatest => ?_⟩
  · have hcompare := isComparison_compareVersion version1 version2
    exact ⟨(isComparison_compareVersion version2 version1).unique hcompare.swap,
      hcompare.neg_iff, hcompare.eq_zero_iff⟩
  · rw [(isComparison_compareVersion _ _).nonpos_iff] at h12 h23 ⊢
    exact h12.trans h23
  · exact isGfeVersionSupported_iff hgfe hlatest

open AutoUpdateChecker CompatFetcher in
theorem versions_agree_patch :
    compareVersion [6, 2, 1] [6, 2] = -compareVersion [6, 2] [6, 2, 1] ∧
    compareVersion [6, 2, 0] [6, 2, 1] ≤ 0 ∧
    (isGfeVersionSupported (fun _ => some (.string "3.20.4")) "3.20.4.14" = true ↔
      compareVersion (parseStringToVersionQuad "3.20.4.14")
        (parseStringToVersionQuad "3.20.4") ≤ 0) :=
  ⟨(versions_agree.1 [6, 2] [6, 2, 1]).1,
    versions_agree.2.1 [6, 2, 0] [6, 2] [6, 2, 1]
      (by simp [compareVersion, compareFrom]) (by simp [compareVersion, compareFrom]),
    versions_agree.2.2 (fun _ => some (.string "3.20.4")) "3.20.4.14"
      ⟨by decide, by decide⟩ ⟨by decide, by decide⟩⟩

end Client

end GilStreaming
