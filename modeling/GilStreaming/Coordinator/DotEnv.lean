import GilStreaming.Lib.GoMap
import GilStreaming.Lib.GoSplit

/-!
# GilStreaming.Coordinator.DotEnv

`coordinator/dotenv.go`: the environment that the coordinator adds from a `.env` file.

A variable that the process has keeps its value, so of several assignments in the file the
first one counts: `loadDotEnv` looks a name up in the environment that it has just changed.
`DotEnvLoaded` is what the file means as a whole. Two files whose lines all parse are not
loaded to their end, with an error: one that sets a variable to a value with a NUL, which
`os.Setenv` refuses, and one with a line that the scanner has no room for.
-/

namespace GilStreaming.Coordinator

/-- The variables of a process. -/
abbrev Environment := GoMap (List Char) (List Char)

/-- Why `parseDotEnvLine` refuses a line. -/
inductive DotEnvError
  /-- `"expected NAME=VALUE"` -/
  | expected
  /-- `"invalid variable name %q"` -/
  | invalidName (name : List Char)
  /-- `"unterminated quoted value"` -/
  | unterminated
  deriving DecidableEq, Repr

def doubleQuote : Char := '\x22'

def singleQuote : Char := '\x27'

/-- The loop of `validEnvironmentName`, at the character `index` of the name. -/
def validEnvironmentCharacters (index : Nat) : List Char → Bool
  | [] => true
  | character :: rest =>
    if ('A' ≤ character && character ≤ 'Z') || ('a' ≤ character && character ≤ 'z') ||
        character = '_' || (0 < index && '0' ≤ character && character ≤ '9') then
      validEnvironmentCharacters (index + 1) rest
    else false

def validEnvironmentName (name : List Char) : Bool :=
  if name = [] then false else validEnvironmentCharacters 0 name

/-- The value has the character at both ends, and they are two. -/
def quotedWith (quote : Char) (value : List Char) : Bool :=
  2 ≤ value.length && value.head? = some quote && value.getLast? = some quote

/-- `parseDotEnvLine`: a name and its value, or nothing for a line that assigns nothing. -/
def parseDotEnvLine (line : List Char) :
    Except DotEnvError (Option (List Char × List Char)) :=
  let line := trimSpace line
  if line = [] || ['#'].isPrefixOf line then .ok none
  else
    let line := trimSpace (trimPrefix line "export ".toList)
    match cut '=' line with
    | none => .error .expected
    | some ([], _) => .error .expected
    | some (before, after) =>
      let name := trimSpace before
      let value := trimSpace after
      if !validEnvironmentName name then .error (.invalidName name)
      else if quotedWith doubleQuote value || quotedWith singleQuote value then
        .ok (some (name, value.tail.dropLast))
      else if [doubleQuote].isPrefixOf value || [singleQuote].isPrefixOf value then
        .error .unterminated
      else .ok (some (name, value))

/-- Why `loadDotEnv` fails. -/
inductive DotEnvLoadError
  /-- The error of `os.Open`. -/
  | openFile (err : String)
  /-- `"%s:%d: %w"` -/
  | line (path : String) (lineNumber : Nat) (err : DotEnvError)
  /-- `"set %s: %w"` -/
  | set (name : List Char)
  /-- `bufio.ErrTooLong` -/
  | tooLong
  /-- The error with which the file could be read no further. -/
  | read (err : String)
  deriving DecidableEq, Repr

/-- What `os.Open` and the reads after it find. -/
inductive DotEnvFile
  | missing
  | unreadable (err : String)
  | contents (text : List Char) (readErr : Option String)
  deriving DecidableEq, Repr

namespace Environment

/-- `os.Setenv`, which fails with `EINVAL`. -/
def setenv (env : Environment) (name value : List Char) : Option Environment :=
  if name = [] || '=' ∈ name || '\x00' ∈ name || '\x00' ∈ value then none
  else some (env.insert name value)

/-- The loop of `loadDotEnv` over the lines of its scanner, and `scanner.Err()`. -/
def loadLines (path : String) (readErr : Option String) (lineNumber : Nat)
    (env : Environment) : List (List Char) → Environment × Option DotEnvLoadError
  | [] => (env, readErr.map DotEnvLoadError.read)
  | raw :: rest =>
    if tooLong raw then (env, some .tooLong)
    else
      match parseDotEnvLine (dropCR raw) with
      | .error err => (env, some (.line path lineNumber err))
      | .ok none => loadLines path readErr (lineNumber + 1) env rest
      | .ok (some (name, value)) =>
        if (env.lookup name).isSome then loadLines path readErr (lineNumber + 1) env rest
        else
          match env.setenv name value with
          | none => (env, some (.set name))
          | some env => loadLines path readErr (lineNumber + 1) env rest

/-- `loadDotEnv`: the environment after it, and its error. -/
def loadDotEnv (env : Environment) (path : String) (file : DotEnvFile) :
    Environment × Option DotEnvLoadError :=
  match file with
  | .missing => (env, none)
  | .unreadable err => (env, some (.openFile err))
  | .contents text readErr => env.loadLines path readErr 1 (rawLines text)

end Environment

/-! ### What a file means -/

/-- The line is an assignment, maybe with an `export`: it is not blank and no comment, and
these are the texts before and behind the first `=`. -/
def IsAssignment (line before after : List Char) : Prop :=
  trimSpace line ≠ [] ∧ (trimSpace line).head? ≠ some '#' ∧ '=' ∉ before ∧
    trimSpace (trimPrefix (trimSpace line) "export ".toList) = before ++ '=' :: after

/-- The name and the value that a line assigns. -/
def lineAssignment (raw : List Char) : Option (List Char × List Char) :=
  (parseDotEnvLine (dropCR raw)).toOption.join

/-- The assignments of the lines, in order. -/
def dotEnvAssignments (lines : List (List Char)) : List (List Char × List Char) :=
  lines.filterMap lineAssignment

/-- What is to become of an environment that a file with these assignments is loaded into. -/
structure DotEnvLoaded (env after : Environment)
    (assignments : List (List Char × List Char)) : Prop where
  /-- What existed keeps its value. -/
  kept : ∀ name value, env.lookup name = some value → after.lookup name = some value
  /-- What is assigned beside has the value of its first assignment. -/
  assigned : ∀ name value, env.lookup name = none →
    assignments.lookup name = some value → after.lookup name = some value
  /-- Nothing else changes. -/
  unchanged : ∀ name, env.lookup name = none → assignments.lookup name = none →
    after.lookup name = none

/-! ### The names -/

/-- The characters of a name are letters, digits and underscores. -/
theorem validEnvironmentCharacters_mem {index : Nat} {name : List Char}
    (h : validEnvironmentCharacters index name = true) {c : Char} (hc : c ∈ name) :
    (65 ≤ c.toNat ∧ c.toNat ≤ 90) ∨ (97 ≤ c.toNat ∧ c.toNat ≤ 122) ∨ c.toNat = 95 ∨
      (48 ≤ c.toNat ∧ c.toNat ≤ 57) := by
  induction name generalizing index with
  | nil => exact absurd hc (by simp)
  | cons d name ih =>
      rw [validEnvironmentCharacters] at h
      split at h
      · next hd =>
          rcases List.mem_cons.mp hc with rfl | hc
          · simp only [Bool.or_eq_true, Bool.and_eq_true, decide_eq_true_eq] at hd
            rcases hd with ((⟨h1, h2⟩ | ⟨h1, h2⟩) | h1) | ⟨⟨-, h1⟩, h2⟩
            · exact .inl ⟨h1, h2⟩
            · exact .inr (.inl ⟨h1, h2⟩)
            · exact .inr (.inr (.inl (by rw [h1]; rfl)))
            · exact .inr (.inr (.inr ⟨h1, h2⟩))
          · exact ih h hc
      · exact absurd h (by simp)

section Name

variable {name : List Char} (h : validEnvironmentName name = true)

include h

theorem ne_nil_of_valid : name ≠ [] := by
  rintro rfl
  exact absurd h (by decide)

theorem valid_mem {c : Char} (hc : c ∈ name) :
    (65 ≤ c.toNat ∧ c.toNat ≤ 90) ∨ (97 ≤ c.toNat ∧ c.toNat ≤ 122) ∨ c.toNat = 95 ∨
      (48 ≤ c.toNat ∧ c.toNat ≤ 57) := by
  rw [validEnvironmentName, if_neg (ne_nil_of_valid h)] at h
  exact validEnvironmentCharacters_mem h hc

/-- What is below the digits, or between them and the letters, is not in a name. -/
theorem notMem_of_valid {c : Char} (hc : c.toNat < 48 ∨ 57 < c.toNat ∧ c.toNat < 65) :
    c ∉ name := by
  intro hmem
  rcases valid_mem h hmem with h | h | h | h <;> omega

theorem isSpace_of_valid {c : Char} (hc : c ∈ name) : isSpace c = false := by
  have hrange := valid_mem h hc
  unfold isSpace
  rw [Bool.or_eq_false_iff]
  constructor
  · rw [decide_eq_false_iff_not]
    intro hmem
    simp only [List.mem_cons, List.not_mem_nil, or_false] at hmem
    rcases hmem with rfl | rfl | rfl | rfl | rfl | rfl | rfl | rfl | rfl | rfl | rfl | rfl | rfl |
      rfl <;> exact absurd hrange (by decide)
  · rw [Bool.and_eq_false_iff]
    left
    rw [decide_eq_false_iff_not]
    intro hle
    have hle : 0x2000 ≤ c.toNat := hle
    omega

end Name

/-! ### Quoted values -/

section Quoted

variable {before after name value : List Char} {quote : Char}

theorem isSpace_quote (hquote : quote = doubleQuote ∨ quote = singleQuote) :
    isSpace quote = false := by
  rcases hquote with rfl | rfl <;> decide

theorem getLast?_quoted (text : List Char) :
    (text ++ quote :: (value ++ [quote])).getLast? = some quote := by
  simp [List.getLast?_append, List.getLast?_cons]

theorem quotedWith_quoted : quotedWith quote (quote :: (value ++ [quote])) = true := by
  have hlast : (quote :: (value ++ [quote])).getLast? = some quote := getLast?_quoted []
  rw [quotedWith, hlast]
  simp

theorem trimmed_quoted (hquote : quote = doubleQuote ∨ quote = singleQuote) {text : List Char}
    (htext : ∀ c, text.head? = some c → isSpace c = false) :
    Trimmed (text ++ quote :: (value ++ [quote])) := by
  constructor
  · intro c hc
    cases text with
    | nil =>
        obtain rfl : quote = c := by simpa using hc
        exact isSpace_quote hquote
    | cons d text =>
        obtain rfl : d = c := by simpa using hc
        exact htext d rfl
  · intro c hc
    rw [getLast?_quoted] at hc
    obtain rfl : quote = c := Option.some.inj hc
    exact isSpace_quote hquote

end Quoted

/-! ### One line -/

/-- What `parseDotEnvLine` makes of an assignment. -/
theorem parse_assignment {line before after : List Char} (h : IsAssignment line before after) :
    parseDotEnvLine line =
      if before = [] then .error .expected
      else if !validEnvironmentName (trimSpace before) then
        .error (.invalidName (trimSpace before))
      else if quotedWith doubleQuote (trimSpace after) || quotedWith singleQuote (trimSpace after)
        then .ok (some (trimSpace before, (trimSpace after).tail.dropLast))
      else if [doubleQuote].isPrefixOf (trimSpace after) ||
          [singleQuote].isPrefixOf (trimSpace after) then .error .unterminated
      else .ok (some (trimSpace before, trimSpace after)) := by
  obtain ⟨hblank, hcomment, hequals, hbody⟩ := h
  have hskip : ¬ ((trimSpace line = [] || ['#'].isPrefixOf (trimSpace line)) = true) := by
    rw [Bool.or_eq_true, decide_eq_true_eq, List.isPrefixOf_iff_prefix]
    rintro (h | ⟨rest, h⟩)
    · exact hblank h
    · exact hcomment (by rw [← h]; rfl)
  have hcut : cut '=' (before ++ '=' :: after) = some (before, after) :=
    cut_eq_some.mpr ⟨rfl, hequals⟩
  unfold parseDotEnvLine
  dsimp only
  rw [if_neg hskip, hbody, hcut]
  cases before with
  | nil => rfl
  | cons c before =>
      dsimp only
      rw [if_neg (List.cons_ne_nil _ _)]

/-- An accepted name is valid. -/
theorem valid_of_parse {line name value : List Char}
    (h : parseDotEnvLine line = .ok (some (name, value))) : validEnvironmentName name = true := by
  unfold parseDotEnvLine at h
  dsimp only at h
  split at h
  · exact absurd h (by simp)
  · split at h
    · exact absurd h (by simp)
    · exact absurd h (by simp)
    · split at h
      · exact absurd h (by simp)
      · next hvalid =>
          have hvalid := by simpa using hvalid
          split at h
          · obtain ⟨rfl, -⟩ := Prod.mk.inj (Option.some.inj (Except.ok.inj h))
            exact hvalid
          · split at h
            · exact absurd h (by simp)
            · obtain ⟨rfl, -⟩ := Prod.mk.inj (Option.some.inj (Except.ok.inj h))
              exact hvalid

/-- `export` and a space, where there is one. -/
def exportText (exported : Bool) : List Char := if exported then "export ".toList else []

/-- A text that starts with a name and `=` does not start with `export` and a space. -/
theorem trimPrefix_name {name after : List Char} (hname : validEnvironmentName name = true) :
    trimPrefix (name ++ '=' :: after) "export ".toList = name ++ '=' :: after := by
  rw [trimPrefix, if_neg]
  rw [List.isPrefixOf_iff_prefix]
  rintro ⟨rest, hrest⟩
  rcases List.append_eq_append_iff.mp hrest with ⟨extra, hextra, -⟩ | ⟨extra, hextra, hafter⟩
  · exact notMem_of_valid hname (.inl (by decide)) (show ' ' ∈ name by rw [hextra]; simp)
  · cases extra with
    | nil =>
        rw [List.append_nil] at hextra
        exact notMem_of_valid hname (.inl (by decide)) (show ' ' ∈ name by rw [← hextra]; decide)
    | cons c extra =>
        obtain rfl : '=' = c := (List.cons.inj hafter).1
        exact absurd (show '=' ∈ "export ".toList by rw [hextra]; simp) (by decide)

theorem isAssignment_quoted {before after name value : List Char} {quote : Char}
    (hname : validEnvironmentName name = true)
    (hquote : quote = doubleQuote ∨ quote = singleQuote) (exported : Bool)
    (hbefore : ∀ c ∈ before, isSpace c = true) (hafter : ∀ c ∈ after, isSpace c = true) :
    IsAssignment (before ++ exportText exported ++ name ++ '=' :: quote :: (value ++ [quote]) ++
      after) name (quote :: (value ++ [quote])) := by
  obtain ⟨d, name', hd⟩ := List.exists_cons_of_ne_nil (ne_nil_of_valid hname)
  have hbody : ∀ exported : Bool,
      Trimmed (exportText exported ++ name ++ '=' :: quote :: (value ++ [quote])) := by
    intro exported
    have h := @trimmed_quoted value quote hquote (exportText exported ++ name ++ ['=']) ?_
    · simpa using h
    · intro c hc
      cases exported with
      | false =>
          obtain rfl : d = c := by simpa [exportText, hd] using hc
          exact isSpace_of_valid hname (by rw [hd]; simp)
      | true =>
          obtain rfl : 'e' = c := by simpa [exportText] using hc
          decide
  have htrim : trimSpace (before ++ exportText exported ++ name ++
      '=' :: quote :: (value ++ [quote]) ++ after) =
        exportText exported ++ name ++ '=' :: quote :: (value ++ [quote]) := by
    simpa [List.append_assoc] using trimSpace_append hbefore (hbody exported) hafter
  have hequals : '=' ∉ name := notMem_of_valid hname (.inr (by decide))
  refine ⟨?_, ?_, hequals, ?_⟩ <;> rw [htrim]
  · simp
  · cases exported with
    | false =>
        have hne : d ≠ '#' := fun h =>
          notMem_of_valid hname (.inl (by decide)) (show '#' ∈ name by rw [hd, h]; simp)
        simpa [exportText, hd] using hne
    | true => simp [exportText]
  · have htrimmed := trimSpace_eq_self (hbody false)
    cases exported with
    | false =>
        rw [show exportText false = [] from rfl, List.nil_append] at htrimmed ⊢
        rw [trimPrefix_name hname, htrimmed]
    | true =>
        rw [show exportText false = [] from rfl, List.nil_append] at htrimmed
        rw [show trimPrefix (exportText true ++ name ++ '=' :: quote :: (value ++ [quote]))
          "export ".toList = name ++ '=' :: quote :: (value ++ [quote]) by
            simp [trimPrefix, exportText], htrimmed]

/-- A quoted value is read back, with its name. -/
theorem parse_quoted {before after name value : List Char} {quote : Char}
    (hname : validEnvironmentName name = true)
    (hquote : quote = doubleQuote ∨ quote = singleQuote) (exported : Bool)
    (hbefore : ∀ c ∈ before, isSpace c = true) (hafter : ∀ c ∈ after, isSpace c = true) :
    parseDotEnvLine (before ++ exportText exported ++ name ++
      '=' :: quote :: (value ++ [quote]) ++ after) = .ok (some (name, value)) := by
  have htrimName : trimSpace name = name :=
    trimSpace_eq_self ⟨fun c hc => isSpace_of_valid hname (List.mem_of_mem_head? hc),
      fun c hc => isSpace_of_valid hname (List.mem_of_mem_getLast? hc)⟩
  have htrimValue : trimSpace (quote :: (value ++ [quote])) = quote :: (value ++ [quote]) :=
    trimSpace_eq_self (@trimmed_quoted value quote hquote [] (by simp))
  have hquoted : (quotedWith doubleQuote (quote :: (value ++ [quote])) ||
      quotedWith singleQuote (quote :: (value ++ [quote]))) = true := by
    rcases hquote with rfl | rfl <;> simp [quotedWith_quoted]
  rw [parse_assignment (isAssignment_quoted hname hquote exported hbefore hafter),
    if_neg (ne_nil_of_valid hname), htrimName, htrimValue, if_neg (by simp [hname]), if_pos hquoted]
  simp

/-- A value that starts with a quote and does not end with it is refused, and so is an invalid
name. -/
theorem parse_refused {line before after : List Char} (h : IsAssignment line before after)
    (hbad : validEnvironmentName (trimSpace before) = false ∨
      ∃ quote, (quote = doubleQuote ∨ quote = singleQuote) ∧
        (trimSpace after).head? = some quote ∧ (trimSpace after).getLast? ≠ some quote) :
    ∃ err, parseDotEnvLine line = .error err := by
  rw [parse_assignment h]
  split
  · exact ⟨_, rfl⟩
  · split
    · exact ⟨_, rfl⟩
    · next hvalid =>
        obtain ⟨quote, hquote, hhead, hlast⟩ := hbad.resolve_left (by simpa using hvalid)
        have hdistinct : doubleQuote ≠ singleQuote := by decide
        obtain ⟨rest, hvalue⟩ := List.head?_eq_some_iff.mp hhead
        have hopen : ([doubleQuote].isPrefixOf (trimSpace after) ||
            [singleQuote].isPrefixOf (trimSpace after)) = true := by
          rcases hquote with rfl | rfl <;> simp [hvalue]
        have hquoted : (quotedWith doubleQuote (trimSpace after) ||
            quotedWith singleQuote (trimSpace after)) = false := by
          rcases hquote with rfl | rfl <;>
            simp [quotedWith, hhead, hlast, hdistinct, hdistinct.symm]
        rw [hquoted, if_neg Bool.false_ne_true, if_pos hopen]
        exact ⟨_, rfl⟩

/-! ### A whole file -/

theorem dotEnvAssignments_cons (raw : List Char) (rest : List (List Char)) :
    dotEnvAssignments (raw :: rest) = (lineAssignment raw).toList ++ dotEnvAssignments rest := by
  unfold dotEnvAssignments
  cases h : lineAssignment raw with
  | none => rw [List.filterMap_cons_none h]; rfl
  | some assignment => rw [List.filterMap_cons_some h]; rfl

namespace Environment

variable {env : Environment} {path : String} {readErr : Option String}

/-- A valid name is set, except to a value with a NUL. -/
theorem setenv_eq {name value : List Char} (hname : validEnvironmentName name = true)
    (hvalue : '\x00' ∉ value) : env.setenv name value = some (env.insert name value) := by
  have hequals : '=' ∉ name := notMem_of_valid hname (.inr (by decide))
  have hnul : '\x00' ∉ name := notMem_of_valid hname (.inl (by decide))
  rw [setenv, if_neg]
  simp [ne_nil_of_valid hname, hequals, hnul, hvalue]

/-- One line that parses leaves an environment with its assignment, unless the variable
exists. -/
theorem loadLines_cons {raw : List Char} {rest : List (List Char)} (lineNumber : Nat)
    (hparse : ∃ result, parseDotEnvLine (dropCR raw) = .ok result) (hshort : tooLong raw = false)
    (hnul : ∀ name value, env.lookup name = none → lineAssignment raw = some (name, value) →
      '\x00' ∉ value) :
    ∃ after : Environment, env.loadLines path readErr lineNumber (raw :: rest) =
        after.loadLines path readErr (lineNumber + 1) rest ∧
      ∀ name, after.lookup name =
        (env.lookup name).or ((lineAssignment raw).toList.lookup name) := by
  obtain ⟨result, hresult⟩ := hparse
  have hline : lineAssignment raw = result := by rw [lineAssignment, hresult]; rfl
  rw [loadLines, if_neg (by simp [hshort]), hresult, hline]
  cases result with
  | none => exact ⟨env, rfl, fun name => by simp⟩
  | some assignment =>
      obtain ⟨name, value⟩ := assignment
      have hlookup : ∀ name', (some (name, value)).toList.lookup name' =
          if name' = name then some value else none := fun name' => by simp
      dsimp only
      cases hexists : env.lookup name with
      | some old =>
          refine ⟨env, rfl, fun name' => ?_⟩
          rw [hlookup]
          split
          · next h => rw [h, hexists]; rfl
          · exact Option.or_none.symm
      | none =>
          rw [setenv_eq (valid_of_parse hresult) (hnul name value hexists hline)]
          refine ⟨env.insert name value, rfl, fun name' => ?_⟩
          rw [GoMap.lookup_insert_eq, hlookup]
          split
          · next h => rw [h, hexists]; rfl
          · exact Option.or_none.symm

/-- The environment after the lines that are left: what it has, and then the first assignment
among them. The induction takes the environment along, since a line looks its name up in what
the lines before it have set. -/
theorem loadLines_spec {lines : List (List Char)} (lineNumber : Nat)
    (hparse : ∀ raw ∈ lines, ∃ result, parseDotEnvLine (dropCR raw) = .ok result)
    (hshort : ∀ raw ∈ lines, tooLong raw = false)
    (hnul : ∀ name value, env.lookup name = none →
      (dotEnvAssignments lines).lookup name = some value → '\x00' ∉ value) :
    (env.loadLines path readErr lineNumber lines).2 = readErr.map DotEnvLoadError.read ∧
      ∀ name, (env.loadLines path readErr lineNumber lines).1.lookup name =
        (env.lookup name).or ((dotEnvAssignments lines).lookup name) := by
  induction lines generalizing env lineNumber with
  | nil => exact ⟨rfl, fun name => by simp [loadLines, dotEnvAssignments]⟩
  | cons raw rest ih =>
      simp only [dotEnvAssignments_cons, List.lookup_append] at hnul ⊢
      obtain ⟨after, hafter, hlookup⟩ := @loadLines_cons env path readErr raw rest lineNumber
        (hparse raw List.mem_cons_self) (hshort raw List.mem_cons_self)
        fun name value hnone hline => hnul name value hnone (by simp [hline])
      obtain ⟨herr, hrest⟩ := @ih after (lineNumber + 1)
        (fun raw hraw => hparse raw (List.mem_cons_of_mem _ hraw))
        (fun raw hraw => hshort raw (List.mem_cons_of_mem _ hraw)) (fun name value hnone h => by
          rw [hlookup, Option.or_eq_none_iff] at hnone
          exact hnul name value hnone.1 (by rw [hnone.2, h]; rfl))
      rw [hafter]
      exact ⟨herr, fun name => by rw [hrest, hlookup, Option.or_assoc]⟩

end Environment

/-- The lines of a `.env` file and the file as a whole. A quoted value is read back, a value
with one quote and an invalid name are refused, and a file whose lines all parse is loaded:
if its lines have room in the scanner, and what it sets has no NUL. -/
theorem dotEnv_law :
    (∀ (before after name value : List Char) (quote : Char) (exported : Bool),
      validEnvironmentName name = true → quote = doubleQuote ∨ quote = singleQuote →
      (∀ c ∈ before, isSpace c = true) → (∀ c ∈ after, isSpace c = true) →
      parseDotEnvLine (before ++ exportText exported ++ name ++
        '=' :: quote :: (value ++ [quote]) ++ after) = .ok (some (name, value))) ∧
    (∀ line before after : List Char, IsAssignment line before after →
      (validEnvironmentName (trimSpace before) = false ∨
        ∃ quote, (quote = doubleQuote ∨ quote = singleQuote) ∧
          (trimSpace after).head? = some quote ∧ (trimSpace after).getLast? ≠ some quote) →
      ∃ err, parseDotEnvLine line = .error err) ∧
    ∀ (env : Environment) (path : String) (text : List Char) (readErr : Option String),
      (∀ raw ∈ rawLines text, ∃ result, parseDotEnvLine (dropCR raw) = .ok result) →
      (∀ raw ∈ rawLines text, byteLength raw < maxScanTokenSize) →
      (∀ name value, env.lookup name = none →
        (dotEnvAssignments (rawLines text)).lookup name = some value → '\x00' ∉ value) →
      (env.loadDotEnv path (.contents text readErr)).2 = readErr.map DotEnvLoadError.read ∧
      DotEnvLoaded env (env.loadDotEnv path (.contents text readErr)).1
        (dotEnvAssignments (rawLines text)) := by
  refine ⟨fun before after name value quote exported hname hquote hbefore hafter =>
    parse_quoted hname hquote exported hbefore hafter, fun line before after => parse_refused, ?_⟩
  intro env path text readErr hparse hshort hnul
  obtain ⟨herr, hlookup⟩ := @Environment.loadLines_spec env path readErr (rawLines text) 1 hparse
    (fun raw hraw => decide_eq_false (Nat.not_le.mpr (hshort raw hraw))) hnul
  refine ⟨herr, ⟨fun name value h => ?_, fun name value h hfirst => ?_, fun name h hnone => ?_⟩⟩
  · exact (hlookup name).trans (by rw [h]; rfl)
  · exact (hlookup name).trans (by rw [h, hfirst]; rfl)
  · exact (hlookup name).trans (by rw [h, hnone]; rfl)

/-- An environment with one variable. -/
def serverEnvironment : Environment := (∅ : Environment).insert ['B'] ['0']

/-- A file that sets another variable twice. -/
def repeatedFile : List Char := "export A='1'\nA=2\nB=2\n".toList

theorem dotEnv_law_applied :
    parseDotEnvLine "export A='1' ".toList = .ok (some (['A'], ['1'])) ∧
      (∃ err, parseDotEnvLine "A='1".toList = .error err) ∧
      DotEnvLoaded serverEnvironment
        (serverEnvironment.loadDotEnv ".env" (.contents repeatedFile none)).1
        (dotEnvAssignments (rawLines repeatedFile)) := by
  have hlines : rawLines repeatedFile =
      ["export A='1'".toList, "A=2".toList, "B=2".toList] := by decide +kernel
  have hvalid : validEnvironmentName ['A'] = true := by decide +kernel
  have hassignment : IsAssignment "A='1".toList ['A'] [singleQuote, '1'] :=
    ⟨by decide +kernel, by decide +kernel, by decide +kernel, by decide +kernel⟩
  refine ⟨dotEnv_law.1 [] [' '] ['A'] ['1'] singleQuote true hvalid (.inr rfl) (by simp)
      (by simp [isSpace]),
    dotEnv_law.2.1 _ ['A'] [singleQuote, '1'] hassignment
      (.inr ⟨singleQuote, .inr rfl, by decide +kernel, by decide +kernel⟩),
    (dotEnv_law.2.2 _ ".env" repeatedFile none ?_ ?_ ?_).2⟩
  · rw [hlines]
    intro raw hraw
    simp only [List.mem_cons, List.not_mem_nil, or_false] at hraw
    rcases hraw with rfl | rfl | rfl
    · exact ⟨some (['A'], ['1']), by decide +kernel⟩
    · exact ⟨some (['A'], ['2']), by decide +kernel⟩
    · exact ⟨some (['B'], ['2']), by decide +kernel⟩
  · rw [hlines]
    decide +kernel
  · intro name value _ h
    have hassigned : dotEnvAssignments (rawLines repeatedFile) =
        [(['A'], ['1']), (['A'], ['2']), (['B'], ['2'])] := by decide +kernel
    obtain ⟨before, after, hparts, -⟩ := List.lookup_eq_some_iff.mp (hassigned ▸ h)
    have hpair : (name, value) ∈ [(['A'], ['1']), (['A'], ['2']), (['B'], ['2'])] :=
      hparts ▸ by simp
    simp only [List.mem_cons, Prod.mk.injEq, List.not_mem_nil, or_false] at hpair
    rcases hpair with ⟨-, rfl⟩ | ⟨-, rfl⟩ | ⟨-, rfl⟩ <;> decide +kernel

/-- All lines of the file parse, and the value of its variable has a NUL. -/
def nulFile : List Char := ['A', '=', '\x00', '\n']

/-- A file whose lines all parse is not loaded. -/
theorem nul_value_not_set :
    (∀ raw ∈ rawLines nulFile, ∃ result, parseDotEnvLine (dropCR raw) = .ok result) ∧
      (dotEnvAssignments (rawLines nulFile)).lookup ['A'] = some ['\x00'] ∧
      ¬ DotEnvLoaded ∅ ((∅ : Environment).loadDotEnv ".env" (.contents nulFile none)).1
        (dotEnvAssignments (rawLines nulFile)) := by
  refine ⟨fun raw hraw => ⟨some (['A'], ['\x00']), ?_⟩, by decide, fun h => ?_⟩
  · have hlines : rawLines nulFile = [['A', '=', '\x00']] := by decide
    obtain rfl := List.mem_singleton.mp (hlines ▸ hraw)
    decide
  · exact absurd (h.assigned ['A'] ['\x00'] rfl (by decide)) (by decide)

end GilStreaming.Coordinator
