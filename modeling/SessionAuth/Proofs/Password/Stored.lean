import SessionAuth.Password.Stored
import SessionAuth.Proofs.Base64
import SessionAuth.Proofs.Text.Bytes
import SessionAuth.Proofs.Text.Decimal
import SessionAuth.Proofs.Text.Split

/-!
# Stored hashes read back

The text of a stored hash is written field by field and read by a parser of its own, which cuts it
at dollar signs, commas and equals signs. None of these stands inside a name, a value or a digest,
so the parser finds the fields that were written.

* `IsValue`: characters that may stand as a value.
* `readDecimal_natText`, `readParam_eq`, `readParams_eq`: numbers and parameters read back.
* `WellFormed`: stored hashes whose parts keep to the lengths that the parser allows.
* `ofText_text`: the text of such a hash is read as this hash.
-/

namespace SessionAuth.StoredHash

/-! ## Names and values -/

theorem isValueChar_of_isAlphanum {c : Char} (h : c.isAlphanum = true) :
    isValueChar c = true := by
  simp [isValueChar, h]

theorem isValueChar_of_isDigit {c : Char} (h : c.isDigit = true) : isValueChar c = true :=
  isValueChar_of_isAlphanum (Bool.or_eq_true_iff.mpr (Or.inr h))

theorem isValueChar_of_isNameChar {c : Char} (h : isNameChar c = true) :
    isValueChar c = true := by
  simp only [isNameChar, Bool.or_eq_true, Bool.and_eq_true, decide_eq_true_eq, beq_iff_eq] at h
  rcases h with (⟨hlow, hhigh⟩ | hdigit) | rfl
  · have hlower : c.isLower = true :=
      Bool.and_eq_true_iff.mpr ⟨decide_eq_true hlow, decide_eq_true hhigh⟩
    have hletter : c.isAlpha = true := Bool.or_eq_true_iff.mpr (Or.inr hlower)
    exact isValueChar_of_isAlphanum (Bool.or_eq_true_iff.mpr (Or.inl hletter))
  · exact isValueChar_of_isDigit hdigit
  · decide

theorem toNat_le_of_isValueChar {c : Char} (h : isValueChar c = true) : c.toNat ≤ 127 := by
  simp only [isValueChar, Bool.or_eq_true, beq_iff_eq] at h
  rcases h with (((halphanum | rfl) | rfl) | rfl) | rfl
  · have hbounds := Text.toNat_of_isAlphanum halphanum
    omega
  all_goals decide

variable {cs : List Char}

theorem byteLength_eq (h : ∀ c ∈ cs, isValueChar c = true) : byteLength cs = cs.length :=
  Text.utf8ByteSize_of_ascii fun c hc => toNat_le_of_isValueChar (h c hc)

/-- A mark between fields, parameters or their parts stands in no value. -/
theorem notMem_of_isValueChar {mark : Char} (hmark : isValueChar mark = false)
    (h : ∀ c ∈ cs, isValueChar c = true) : mark ∉ cs := fun hmem =>
  absurd (h mark hmem) (by rw [hmark]; decide)

/-- Characters that may stand as a value. -/
structure IsValue (cs : List Char) : Prop where
  chars : ∀ c ∈ cs, isValueChar c = true
  length : cs.length ≤ 64

theorem readValue_eq (h : IsValue cs) : readValue cs = .ok (String.ofList cs) := by
  have hlength := h.length
  have hfind : cs.find? (!isValueChar ·) = none :=
    List.find?_eq_none.mpr fun c hc => by rw [h.chars c hc]; decide
  rw [readValue, byteLength_eq h.chars, if_neg (by omega), hfind]

theorem chars_of_isName (h : isName cs = true) : ∀ c ∈ cs, isValueChar c = true := by
  simp only [isName, Bool.and_eq_true, List.all_eq_true] at h
  exact fun c hc => isValueChar_of_isNameChar (h.2 c hc)

theorem readName_eq (h : isName cs = true) : readName cs = .ok (String.ofList cs) := if_pos h

/-! ## Numbers -/

theorem isValue_natText {n : Nat} (h : n ≤ maxNumber) : IsValue (Text.natText n).toList := by
  rw [Text.natText_toList]
  refine ⟨fun c hc => isValueChar_of_isDigit (Text.isDigit_of_mem_toDigits hc), ?_⟩
  have hlength : (Nat.toDigits 10 n).length ≤ 10 :=
    (Nat.length_toDigits_le_iff (by decide) (by decide)).mpr (Nat.lt_of_le_of_lt h (by decide))
  omega

/-- The digits of a number have no zero in front. -/
theorem length_of_head?_toDigits {n : Nat} (h : (Nat.toDigits 10 n).head? = some '0') :
    (Nat.toDigits 10 n).length = 1 := by
  obtain ⟨rest, hrest⟩ := List.head?_eq_some_iff.mp h
  rw [hrest, List.length_cons]
  by_contra hne
  -- Without the zero the digits would be shorter and still have the same value.
  have hvalue : n = Text.digitsValue 0 rest := by
    rw [← Text.digitsValue_toDigits n, hrest]
    rfl
  have hdigits : ∀ c ∈ rest, c.isDigit = true := fun c hc =>
    Text.isDigit_of_mem_toDigits (hrest ▸ List.mem_cons_of_mem '0' hc)
  have hshort := (Nat.length_toDigits_le_iff (by decide) (by omega)).mpr
    (hvalue ▸ Text.digitsValue_lt hdigits)
  rw [hrest, List.length_cons] at hshort
  omega

theorem readDecimal_natText {n : Nat} (h : n ≤ maxNumber) :
    readDecimal (Text.natText n) = .ok n := by
  have hempty : (Nat.toDigits 10 n).isEmpty = false :=
    List.isEmpty_eq_false_iff.mpr Nat.toDigits_ne_nil
  have hfind : (Nat.toDigits 10 n).find? (!·.isDigit) = none :=
    List.find?_eq_none.mpr fun c hc => by rw [Text.isDigit_of_mem_toDigits hc]; decide
  have hzero : ¬ ((Nat.toDigits 10 n).head? == some '0' &&
      decide (1 < (Nat.toDigits 10 n).length)) = true := by
    intro hlong
    simp only [Bool.and_eq_true, beq_iff_eq, decide_eq_true_eq] at hlong
    exact absurd (length_of_head?_toDigits hlong.1) (by omega)
  simp only [readDecimal, Text.natText_toList, hempty, Bool.false_eq_true, if_false, hfind,
    if_neg hzero, Text.digitsValue_toDigits, if_pos h]

theorem readVersion_natText {n : Nat} (h : n ≤ maxNumber) :
    readVersion (Text.natText n).toList = .ok n := by
  rw [readVersion, readValue_eq (isValue_natText h), String.ofList_toList]
  exact congrArg inValue (readDecimal_natText h)

/-! ## Parameters -/

/-- A parameter whose parts can be read back. -/
structure IsParam (p : String × String) : Prop where
  name : isName p.1.toList = true
  value : IsValue p.2.toList

theorem isParam_natText {name : String} {n : Nat} (hname : isName name.toList = true)
    (h : n ≤ maxNumber) : IsParam (name, Text.natText n) := ⟨hname, isValue_natText h⟩

def paramChars (p : String × String) : List Char := p.1.toList ++ '=' :: p.2.toList

theorem splitOn_paramChars {p : String × String} (h : IsParam p) :
    Text.splitOn '=' (paramChars p) = [p.1.toList, p.2.toList] := by
  rw [paramChars, Text.splitOn_append_cons,
    Text.splitOn_of_notMem (notMem_of_isValueChar (by decide) (chars_of_isName h.name)),
    Text.splitOn_of_notMem (notMem_of_isValueChar (by decide) h.value.chars)]
  rfl

theorem readParam_eq {p : String × String} (h : IsParam p) : readParam (paramChars p) = .ok p := by
  rw [readParam, splitOn_paramChars h]
  simp only [readName_eq h.name, readValue_eq h.value, String.ofList_toList]
  rfl

theorem notMem_paramChars {p : String × String} {mark : Char} (h : IsParam p)
    (hmark : isValueChar mark = false) (hne : mark ≠ '=') : mark ∉ paramChars p := by
  have hname : mark ∉ p.1.toList := notMem_of_isValueChar hmark (chars_of_isName h.name)
  have hvalue : mark ∉ p.2.toList := notMem_of_isValueChar hmark h.value.chars
  simp [paramChars, hname, hne, hvalue]

theorem paramsText_cons (p : String × String) (ps : List (String × String)) :
    paramsText (p :: ps) = paramChars p ++ (ps.map paramChars).flatMap (',' :: ·) :=
  Text.intercalate_cons ',' (paramChars p) (ps.map paramChars)

theorem exists_paramsText (p : String × String) (ps : List (String × String)) :
    ∃ rest, paramsText (p :: ps) = p.1.toList ++ '=' :: rest :=
  ⟨_, by rw [paramsText_cons, paramChars, List.append_assoc, List.cons_append]⟩

variable {params : List (String × String)}

theorem dollar_notMem_paramsText (h : ∀ p ∈ params, IsParam p) : '$' ∉ paramsText params := by
  have hparam : ∀ p ∈ params, '$' ∉ paramChars p := fun p hp =>
    notMem_paramChars (h p hp) (by decide) (by decide)
  cases params with
  | nil => exact List.not_mem_nil
  | cons p ps =>
    rw [paramsText_cons, List.mem_append, List.mem_flatMap]
    rintro (hmem | ⟨_, hpiece, hmem⟩)
    · exact hparam p List.mem_cons_self hmem
    · obtain ⟨q, hq, rfl⟩ := List.mem_map.mp hpiece
      rcases List.mem_cons.mp hmem with heq | hmem
      · exact absurd heq (by decide)
      · exact hparam q (List.mem_cons_of_mem p hq) hmem

theorem splitOn_paramsText (h : ∀ p ∈ params, IsParam p) (hne : params ≠ []) :
    Text.splitOn ',' (paramsText params) = params.map paramChars := by
  refine Text.splitOn_intercalate (fun piece hpiece => ?_) (by simpa using hne)
  obtain ⟨p, hp, rfl⟩ := List.mem_map.mp hpiece
  exact notMem_paramChars (h p hp) (by decide) (by decide)

theorem readParams_eq (h : ∀ p ∈ params, IsParam p) (hne : params ≠ [])
    (hlength : byteLength (paramsText params) ≤ 127) :
    readParams (paramsText params) = .ok params := by
  have hread : ∀ ps : List (String × String), (∀ p ∈ ps, IsParam p) →
      (ps.map paramChars).mapM readParam = .ok ps := by
    intro ps hps
    induction ps with
    | nil => rfl
    | cons p ps ih =>
      rw [List.map_cons, List.mapM_cons, readParam_eq (hps p List.mem_cons_self),
        ih fun q hq => hps q (List.mem_cons_of_mem p hq)]
      rfl
  rw [readParams, if_neg (by omega), splitOn_paramsText h hne, hread params h]

/-! ## Salts and digests -/

theorem readSalt_eq (h : IsValue cs) (hlength : 4 ≤ cs.length) :
    readSalt cs = .ok (String.ofList cs) := by
  have hmost := h.length
  rw [readSalt, byteLength_eq h.chars, if_neg (by omega), if_neg (by omega), readValue_eq h]
  rfl

theorem isValueChar_digit : ∀ n < 64, isValueChar (Base64.standard.digit n) = true := by
  decide +kernel

theorem isValueChar_encode (bytes : List UInt8) :
    ∀ c ∈ Base64.encode Base64.standard bytes, isValueChar c = true := by
  intro c hc
  obtain ⟨n, hn, rfl⟩ := Base64.exists_digit_of_mem_encode hc
  exact isValueChar_digit n hn

theorem isValue_encode {bytes : List UInt8} (h : bytes.length ≤ 48) :
    IsValue (Base64.encode Base64.standard bytes) := by
  refine ⟨isValueChar_encode bytes, ?_⟩
  rw [Base64.length_encode]
  omega

theorem readDigest_encode {bytes : List UInt8} (hleast : 10 ≤ bytes.length)
    (hmost : bytes.length ≤ 64) :
    readDigest (Base64.encode Base64.standard bytes) = .ok bytes := by
  rw [readDigest, byteLength_eq (isValueChar_encode bytes), Base64.length_encode,
    if_neg (by omega), Base64.decode?_encode Base64.faithful_standard]
  exact if_neg (by omega)

/-! ## Stored hashes -/

/-- A stored hash that can be read back: its parts have the characters and the lengths that the
parser allows, it has a salt if it has a digest, and no parameter looks like a version. -/
structure WellFormed (h : StoredHash) : Prop where
  algorithm : isName h.algorithm.toList = true
  version : ∀ v ∈ h.version, v ≤ maxNumber
  params : ∀ p ∈ h.params, IsParam p
  paramsLength : byteLength (paramsText h.params) ≤ 127
  apart : h.version = none → ∀ p ∈ h.params, p.1 ≠ "v"
  salt : ∀ s ∈ h.salt, IsValue s.toList ∧ 4 ≤ s.toList.length
  digest : ∀ d ∈ h.digest, 10 ≤ d.length ∧ d.length ≤ 64
  salted : h.salt = none → h.digest = none

def versionFields (h : StoredHash) : List (List Char) :=
  (h.version.map fun v => "v=".toList ++ (Text.natText v).toList).toList

def paramsFields (h : StoredHash) : List (List Char) :=
  if h.params.isEmpty then [] else [paramsText h.params]

variable {h : StoredHash}

namespace WellFormed

theorem equals_notMem_salt (hw : h.WellFormed) {s : String} (hs : h.salt = some s) :
    '=' ∉ s.toList :=
  notMem_of_isValueChar (by decide) (hw.salt s hs).1.chars

theorem outputFields_cases (hw : h.WellFormed) :
    h.outputFields = [] ∨ ∃ s rest, h.salt = some s ∧ h.outputFields = s.toList :: rest := by
  cases hs : h.salt with
  | none => exact Or.inl (by rw [outputFields, hs, hw.salted hs]; rfl)
  | some s => exact Or.inr ⟨s, _, rfl, by rw [outputFields, hs]; rfl⟩

/-- Where no version is written, the first field is not mistaken for one. -/
theorem unversioned (hw : h.WellFormed) (hversion : h.version = none) (cs : List Char)
    (rest : List (List Char)) : h.paramsFields ++ h.outputFields ≠ ('v' :: '=' :: cs) :: rest := by
  intro heq
  cases hparams : h.params with
  | nil =>
    rw [paramsFields, hparams, List.isEmpty_nil, if_pos rfl, List.nil_append] at heq
    rcases hw.outputFields_cases with hnone | ⟨s, more, hs, hfields⟩
    · exact absurd (hnone.symm.trans heq) (by simp)
    · obtain ⟨htext, -⟩ := List.cons.inj (hfields.symm.trans heq)
      exact hw.equals_notMem_salt hs (by simp [htext])
  | cons p ps =>
    obtain ⟨tail, htail⟩ := exists_paramsText p ps
    have hp : p ∈ h.params := hparams ▸ List.mem_cons_self
    have hname := (hw.params p hp).name
    rw [paramsFields, hparams, List.isEmpty_cons, if_neg Bool.false_ne_true, htail] at heq
    obtain ⟨htext, -⟩ := List.cons.inj heq
    have hequals : '=' ∉ p.1.toList := notMem_of_isValueChar (by decide) (chars_of_isName hname)
    -- A name that ends where the equals sign is has the letter for versions and no more.
    match hchars : p.1.toList with
    | [] => simp [hchars, isName] at hname
    | [c] =>
      rw [hchars] at htext
      obtain rfl : c = 'v' := (List.cons.inj htext).1
      exact hw.apart hversion p hp (by rw [← String.toList_inj, hchars]; rfl)
    | c :: d :: more =>
      rw [hchars] at htext hequals
      obtain rfl : d = '=' := (List.cons.inj (List.cons.inj htext).2).1
      exact hequals (by simp)

theorem takeVersion_eq (hw : h.WellFormed) :
    takeVersion (h.versionFields ++ (h.paramsFields ++ h.outputFields)) =
      .ok (h.version, h.paramsFields ++ h.outputFields) := by
  rw [versionFields]
  cases hversion : h.version with
  | none =>
    rw [Option.map_none, Option.toList_none, List.nil_append, takeVersion]
    exact hw.unversioned hversion
  | some v =>
    have hv := hw.version v hversion
    have hcomma : (Text.natText v).toList.contains ',' = false := by
      rw [← Bool.not_eq_true, List.contains_iff_mem]
      exact notMem_of_isValueChar (by decide) (isValue_natText hv).chars
    have htake : ∀ rest, takeVersion (('v' :: '=' :: (Text.natText v).toList) :: rest) =
        .ok (some v, rest) := by
      intro rest
      rw [takeVersion, hcomma, if_neg Bool.false_ne_true, readVersion_natText hv]
      rfl
    exact htake _

theorem takeParams_eq (hw : h.WellFormed) :
    takeParams (h.paramsFields ++ h.outputFields) = .ok (h.params, h.outputFields) := by
  rw [paramsFields]
  cases hparams : h.params with
  | nil =>
    rw [List.isEmpty_nil, if_pos rfl, List.nil_append]
    rcases hw.outputFields_cases with hnone | ⟨s, rest, hs, hfields⟩
    · rw [hnone]
      rfl
    · have hequals : s.toList.contains '=' = false := by
        rw [← Bool.not_eq_true, List.contains_iff_mem]
        exact hw.equals_notMem_salt hs
      rw [hfields, takeParams, hequals]
      rfl
  | cons p ps =>
    obtain ⟨rest, hrest⟩ := exists_paramsText p ps
    have hequals : (paramsText (p :: ps)).contains '=' = true := by
      rw [List.contains_iff_mem, hrest]
      simp
    have hread := readParams_eq (hparams ▸ hw.params) (List.cons_ne_nil p ps)
      (hparams ▸ hw.paramsLength)
    rw [List.isEmpty_cons, if_neg Bool.false_ne_true, List.singleton_append, takeParams, hequals,
      if_pos rfl, hread]
    rfl

theorem ofFields_eq (hw : h.WellFormed) :
    ofFields h.algorithm (h.versionFields ++ (h.paramsFields ++ h.outputFields)) = .ok h := by
  rw [ofFields, hw.takeVersion_eq]
  dsimp only [bind, Except.bind]
  rw [hw.takeParams_eq]
  obtain ⟨algorithm, version, params, salt, digest⟩ := h
  cases salt with
  | none =>
    obtain rfl : digest = none := hw.salted rfl
    rfl
  | some s =>
    obtain ⟨hvalue, hleast⟩ := hw.salt s rfl
    have hsalt := readSalt_eq hvalue hleast
    rw [String.ofList_toList] at hsalt
    cases digest with
    | none =>
      simp only [outputFields, Option.map_some, Option.map_none, Option.toList_some,
        Option.toList_none, List.append_nil, hsalt]
      rfl
    | some d =>
      obtain ⟨hmin, hmax⟩ := hw.digest d rfl
      simp only [outputFields, Option.map_some, Option.toList_some, List.cons_append,
        List.nil_append, hsalt, readDigest_encode hmin hmax]
      rfl

theorem dollar_notMem (hw : h.WellFormed) :
    ∀ cs ∈ h.settingsFields ++ h.outputFields, '$' ∉ cs := by
  have hvalue : ∀ {cs : List Char}, (∀ c ∈ cs, isValueChar c = true) → '$' ∉ cs :=
    notMem_of_isValueChar (by decide)
  intro cs hcs
  simp only [settingsFields, outputFields, List.mem_append, List.mem_cons, Option.mem_toList,
    Option.map_eq_some_iff] at hcs
  rcases hcs with ((rfl | ⟨v, hv, rfl⟩) | hparams) | ⟨s, hs, rfl⟩ | ⟨d, hd, rfl⟩
  · exact hvalue (chars_of_isName hw.algorithm)
  · have hdigits := hvalue (isValue_natText (hw.version v hv)).chars
    exact fun hmem => (List.mem_append.mp hmem).elim (by decide) hdigits
  · split at hparams
    · exact absurd hparams List.not_mem_nil
    · rw [List.mem_singleton.mp hparams]
      exact dollar_notMem_paramsText hw.params
  · exact hvalue (hw.salt s hs).1.chars
  · exact hvalue (isValueChar_encode d)

end WellFormed

theorem splitOn_fieldsText {fields : List (List Char)} (hfields : ∀ cs ∈ fields, '$' ∉ cs) :
    Text.splitOn '$' (fieldsText fields).toList = [] :: fields := by
  have htext : fields.flatMap ('$' :: ·) = ['$'].intercalate ([] :: fields) :=
    (Text.intercalate_cons '$' [] fields).symm
  rw [fieldsText, String.toList_ofList, htext]
  refine Text.splitOn_intercalate (fun piece hpiece => ?_) (List.cons_ne_nil _ _)
  rcases List.mem_cons.mp hpiece with rfl | hpiece
  · exact List.not_mem_nil
  · exact hfields piece hpiece

/-- **The text of a stored hash is read as this hash.** -/
theorem ofText_text (hw : h.WellFormed) : ofText h.text = .ok h := by
  have hfields : h.settingsFields ++ h.outputFields =
      h.algorithm.toList :: (h.versionFields ++ (h.paramsFields ++ h.outputFields)) := by
    rw [← List.append_assoc]
    rfl
  rw [ofText, text, splitOn_fieldsText hw.dollar_notMem, hfields]
  simp only [readName_eq hw.algorithm, String.ofList_toList]
  exact hw.ofFields_eq

theorem ne_empty_of_ofText {text : String} (htext : ofText text = .ok h) :
    text.isEmpty = false := by
  rw [← Bool.not_eq_true, String.isEmpty_iff]
  rintro rfl
  cases htext

end SessionAuth.StoredHash
