import SessionAuth.Proofs.Json.Records
import SessionAuth.Proofs.Token.PublicKey
import SessionAuth.Token.Header

/-!
# The grammar of token headers

Which bytes are a header, and which algorithm it names, said without the reader of headers. A
header is an object in which no known field repeats and every known field has a value of its kind;
it may also be written as the array of all known fields. What else it says does not matter.

* `grammar`: the known fields, and what may stand under them.
* `IsHeaderOf`: the members of a header that names an algorithm.
* `Names`: the bytes of such a header; `algorithm?_eq_some_iff`: the main statement.
* `isHeaderOf_of_names`, `Faulty`: of a header that is an object, the members decide.
* `IsUsual`: headers as they are usually written.
-/

namespace SessionAuth.Token.Header

open Json (Blanks HasMembers IsArray IsList IsNamed IsObject IsText OrNull Passes SpellsKey
  SpellsUtf8 Starts Steps Takes isUtf8 nullText)
open PublicKey (IsKey IsOneOf Matches Member)

/-! ## Fields -/

/-- The text names an algorithm: in quotes, or as the one key of an object, over `null`. -/
def NamesAlgorithm : List Char → String → Prop := IsOneOf algorithms (· = nullText)

/-- Bytes that are UTF-8 and write `null` or what the grammar has. -/
def Maybe {α : Type} (G : List Char → α → Prop) (v : List Char) : Prop :=
  Matches (OrNull G) v ∧ isUtf8 v = true

/-- The known fields in their order, each with what may stand under it. -/
def grammar : List (String × (List Char → Prop)) := [
  ("typ", Maybe IsText), ("alg", Matches NamesAlgorithm), ("cty", Maybe IsText),
  ("jku", Maybe IsText), ("jwk", Maybe fun v (_ : Unit) => IsKey v), ("kid", Maybe IsText),
  ("x5u", Maybe IsText), ("x5c", Maybe (IsList IsText)), ("x5t", Maybe IsText),
  ("x5t#S256", Maybe IsText)]

/-- The names of the known fields. -/
def known : List String := grammar.map Prod.fst

/-- A member of a header may have its value. -/
def Fits (m : Member) : Prop :=
  match grammar.lookup m.1 with
  | some P => P m.2
  | none => Passes m.2

/-- The members of a header that names the algorithm. -/
structure IsHeaderOf (members : List Member) (name : String) : Prop where
  single : ((members.map Prod.fst).filter (known.contains ·)).Nodup
  fits : ∀ m ∈ members, Fits m
  algorithm : ∃ v, ("alg", v) ∈ members ∧ NamesAlgorithm v name

/-- The members stand in the text: as an object with keys in UTF-8, or as the array of the values
of all known fields. -/
def Holds (v : List Char) (members : List Member) : Prop :=
  IsObject SpellsUtf8 members v ∨
    members.map Prod.fst = known ∧ IsArray (members.map Prod.snd) v

/-- The bytes are a header that names the algorithm. -/
def Names (bytes : List UInt8) (name : String) : Prop :=
  ∃ b v b' members, Blanks b ∧ Blanks b' ∧ Json.byteChars bytes = b ++ (v ++ b') ∧
    Holds v members ∧ IsHeaderOf members name

/-! ## Reading fields -/

/-- What a known field does to what has been read of a header. -/
structure FieldStep (name : String) (d : Draft) (v : List Char) (d' : Draft) : Prop where
  value : ∃ P, grammar.lookup name = some P ∧ P v
  seen : d'.seen = name :: d.seen
  kept : name ≠ "alg" → d'.algorithm = d.algorithm
  algorithm : name = "alg" → ∃ a, NamesAlgorithm v a ∧ d'.algorithm = some a

theorem takes_typed {α : Type} {reader : Json.Reader α} {G : List Char → α → Prop} {name : String}
    (h : Takes (Json.readOptional reader) (OrNull G))
    (hlookup : grammar.lookup name = some (Maybe G)) (hname : name ≠ "alg") (d : Draft) :
    Takes ((typed name reader).read d) (FieldStep name d) := by
  refine ((Json.takes_readUtf8 h).map fun _ => { d with seen := name :: d.seen }).of_iff
    fun v d' => ?_
  constructor
  · rintro ⟨a, ⟨ha, hutf8⟩, rfl⟩
    exact ⟨⟨_, hlookup, ⟨a, ha⟩, hutf8⟩, rfl, fun _ => rfl, fun hn => absurd hn hname⟩
  · rintro ⟨⟨P, hP, hv⟩, hseen, hkept, -⟩
    obtain rfl : Maybe G = P := Option.some.inj (hlookup.symm.trans hP)
    obtain ⟨⟨a, ha⟩, hutf8⟩ := hv
    refine ⟨a, ⟨ha, hutf8⟩, ?_⟩
    cases d'
    simp_all

theorem takes_namesAlgorithm : Takes (Json.readUnitName (among algorithms)) NamesAlgorithm :=
  PublicKey.takes_oneOf Json.takes_readNull algorithms

theorem NamesAlgorithm.unique {v : List Char} {a a' : String} (h : NamesAlgorithm v a)
    (h' : NamesAlgorithm v a') : a = a' :=
  (takes_namesAlgorithm.unique h h' Json.ends_nil Json.ends_nil rfl).2.1

theorem takes_algorithmField (d : Draft) :
    Takes (algorithmField.read d) (FieldStep "alg" d) := by
  refine (takes_namesAlgorithm.map fun a => (⟨"alg" :: d.seen, some a⟩ : Draft)).of_iff
    fun v d' => ?_
  constructor
  · rintro ⟨a, ha, rfl⟩
    exact ⟨⟨_, rfl, a, ha⟩, rfl, fun hn => absurd rfl hn, fun _ => ⟨a, ha, rfl⟩⟩
  · rintro ⟨-, hseen, -, halgorithm⟩
    obtain ⟨a, ha, hd⟩ := halgorithm rfl
    refine ⟨a, ha, ?_⟩
    cases d'
    simp_all

theorem takes_maybeText : Takes (Json.readOptional Json.readText) (OrNull IsText) :=
  Json.takes_readOptional Json.takes_readText IsText.opens

theorem takes_fields : ∀ f ∈ fields, ∀ d, Takes (f.read d) (FieldStep f.name d) := by
  have htexts := Json.takes_readOptional (Json.takes_readList Json.takes_readText IsText.opens)
    IsList.opens
  have hkey := Json.takes_readOptional PublicKey.takes_read IsKey.opens
  simp only [fields, List.forall_mem_cons]
  exact ⟨takes_typed takes_maybeText rfl (by decide), takes_algorithmField,
    takes_typed takes_maybeText rfl (by decide), takes_typed takes_maybeText rfl (by decide),
    takes_typed hkey rfl (by decide), takes_typed takes_maybeText rfl (by decide),
    takes_typed takes_maybeText rfl (by decide), takes_typed htexts rfl (by decide),
    takes_typed takes_maybeText rfl (by decide), takes_typed takes_maybeText rfl (by decide),
    fun _ hf => absurd hf List.not_mem_nil⟩

theorem isSet_fields : ∀ f ∈ fields, ∀ d, f.isSet d = d.seen.contains f.name := by
  simp only [fields, List.forall_mem_cons]
  exact ⟨fun _ => rfl, fun _ => rfl, fun _ => rfl, fun _ => rfl, fun _ => rfl, fun _ => rfl,
    fun _ => rfl, fun _ => rfl, fun _ => rfl, fun _ => rfl, fun _ hf => absurd hf List.not_mem_nil⟩

theorem alg_mem_known : "alg" ∈ known := by decide

theorem names_fields : fields.map Json.Field.name = known := rfl

theorem lookup_eq_none_iff {name : String} : grammar.lookup name = none ↔ name ∉ known := by
  rw [List.lookup_eq_none_iff, known]
  simp only [List.mem_map, not_exists, not_and, bne_iff_ne, ne_eq]
  exact ⟨fun h p hp heq => h p hp heq.symm, fun h p hp heq => h p hp heq.symm⟩

theorem Maybe.passes {α : Type} {G : List Char → α → Prop} (hG : ∀ {v a}, G v a → Passes v)
    {v : List Char} (h : Maybe G v) : Passes v := by
  obtain ⟨⟨a, ha⟩, -⟩ := h
  exact OrNull.passes hG ha

theorem NamesAlgorithm.passes {v : List Char} {a : String} (h : NamesAlgorithm v a) : Passes v :=
  IsOneOf.passes PublicKey.passes_of_eq_nullText h

/-- Whatever stands under a known name could be passed over. -/
theorem passes_of_mem_grammar : ∀ q ∈ grammar, ∀ {v : List Char}, q.2 v → Passes v := by
  have htext : ∀ {v : List Char}, Maybe IsText v → Passes v := fun h => h.passes IsText.passes
  have htexts : ∀ {v : List Char}, Maybe (IsList IsText) v → Passes v :=
    fun h => h.passes fun h => h.passes IsText.passes
  have hkey : ∀ {v : List Char}, Maybe (fun v (_ : Unit) => IsKey v) v → Passes v :=
    fun h => h.passes IsKey.passes
  simp only [grammar, List.forall_mem_cons]
  exact ⟨htext, fun ⟨_, ha⟩ => NamesAlgorithm.passes ha, htext, htext, hkey, htext, htext, htexts,
    htext, htext, fun _ hq => absurd hq List.not_mem_nil⟩

theorem passes_of_lookup {name : String} {P : List Char → Prop} {v : List Char}
    (hP : grammar.lookup name = some P) (hv : P v) : Passes v := by
  obtain ⟨l₁, l₂, hl, -⟩ := List.lookup_eq_some_iff.mp hP
  have hmem : (name, P) ∈ grammar := hl ▸ List.mem_append_right _ List.mem_cons_self
  exact passes_of_mem_grammar _ hmem hv

theorem Fits.passes {m : Member} (h : Fits m) : Passes m.2 := by
  unfold Fits at h
  split at h
  · rename_i P hP
    exact passes_of_lookup hP h
  · exact h

theorem FieldStep.starts {name : String} {d d' : Draft} {v : List Char}
    (h : FieldStep name d v d') : Starts v := by
  obtain ⟨P, hP, hv⟩ := h.value
  exact (passes_of_lookup hP hv).starts

/-! ## Members one after the other -/

/-- What a member of an object does to what has been read of a header. -/
inductive Step (d : Draft) (m : Member) : Draft → Prop
  | field {d' : Draft} (hnew : m.1 ∉ d.seen) (h : FieldStep m.1 d m.2 d') : Step d m d'
  | other (hname : m.1 ∉ known) (h : Passes m.2) : Step d m d

theorem memberStep_iff {d d' : Draft} {m : Member} :
    Json.MemberStep fields FieldStep d m d' ↔ Step d m d' := by
  unfold Json.MemberStep
  cases hfind : fields.find? (·.name == m.1) with
  | none =>
    have hname : m.1 ∉ known := by
      rw [← names_fields, List.mem_map]
      rintro ⟨f, hf, hname⟩
      have hnot := List.find?_eq_none.mp hfind f hf
      simp [hname] at hnot
    constructor
    · rintro ⟨hpasses, rfl⟩
      exact .other hname hpasses
    · rintro (⟨-, h⟩ | ⟨-, h⟩)
      · obtain ⟨P, hP, -⟩ := h.value
        rw [lookup_eq_none_iff.mpr hname] at hP
        cases hP
      · exact ⟨h, rfl⟩
  | some f =>
    have hmem := List.mem_of_find?_eq_some hfind
    have hname : f.name = m.1 := by simpa using List.find?_some hfind
    have hknown : m.1 ∈ known := by
      rw [← names_fields, ← hname]
      exact List.mem_map_of_mem hmem
    dsimp only
    rw [isSet_fields f hmem, hname]
    constructor
    · rintro ⟨hnew, h⟩
      exact .field (by simpa using hnew) h
    · rintro (⟨hnew, h⟩ | ⟨hname, -⟩)
      · exact ⟨by simpa using hnew, h⟩
      · exact absurd hknown hname

/-- The known names among those of the members. -/
def knownNames (members : List Member) : List String :=
  (members.map Prod.fst).filter (known.contains ·)

theorem knownNames_cons_of_mem {m : Member} {members : List Member} (h : m.1 ∈ known) :
    knownNames (m :: members) = m.1 :: knownNames members := by
  simp [knownNames, h]

theorem knownNames_cons_of_notMem {m : Member} {members : List Member} (h : m.1 ∉ known) :
    knownNames (m :: members) = knownNames members := by
  simp [knownNames, h]

theorem FieldStep.mem_known {name : String} {d d' : Draft} {v : List Char}
    (h : FieldStep name d v d') : name ∈ known := by
  obtain ⟨P, hP, -⟩ := h.value
  by_contra hname
  rw [lookup_eq_none_iff.mpr hname] at hP
  cases hP

theorem FieldStep.fits {m : Member} {d d' : Draft} (h : FieldStep m.1 d m.2 d') : Fits m := by
  obtain ⟨P, hP, hv⟩ := h.value
  rw [Fits, hP]
  exact hv

theorem fits_of_notMem {m : Member} (hname : m.1 ∉ known) : Fits m ↔ Passes m.2 := by
  rw [Fits, lookup_eq_none_iff.mpr hname]

/-- What the members are that have been read. -/
structure Read (d : Draft) (members : List Member) (d' : Draft) : Prop where
  single : (knownNames members).Nodup
  fresh : ∀ name ∈ knownNames members, name ∉ d.seen
  fits : ∀ m ∈ members, Fits m
  algorithm : ∀ a, d'.algorithm = some a →
    d.algorithm = some a ∨ ∃ v, ("alg", v) ∈ members ∧ NamesAlgorithm v a

theorem read_of_steps {d d' : Draft} {members : List Member} (h : Steps Step d members d') :
    Read d members d' := by
  induction h with
  | nil d => exact ⟨.nil, by simp [knownNames], by simp, fun a ha => Or.inl ha⟩
  | @cons d mid d' m members step _ ih =>
    obtain ⟨hsingle, hfresh, hfits, halgorithm⟩ := ih
    cases step with
    | field hnew hstep =>
      rw [hstep.seen] at hfresh
      refine ⟨?_, ?_, List.forall_mem_cons.mpr ⟨hstep.fits, hfits⟩, fun a ha => ?_⟩
      · rw [knownNames_cons_of_mem hstep.mem_known]
        exact List.nodup_cons.mpr ⟨fun hmem => hfresh _ hmem List.mem_cons_self, hsingle⟩
      · rw [knownNames_cons_of_mem hstep.mem_known, List.forall_mem_cons]
        exact ⟨hnew, fun name hname hseen => hfresh name hname (List.mem_cons_of_mem _ hseen)⟩
      · rcases halgorithm a ha with hmid | ⟨v, hv, hnames⟩
        · by_cases hm : m.1 = "alg"
          · obtain ⟨a', ha', hmid'⟩ := hstep.algorithm hm
            obtain rfl : a = a' := Option.some.inj (hmid.symm.trans hmid')
            exact Or.inr ⟨m.2, by rw [← hm]; exact List.mem_cons_self, ha'⟩
          · exact Or.inl (hstep.kept hm ▸ hmid)
        · exact Or.inr ⟨v, List.mem_cons_of_mem _ hv, hnames⟩
    | other hname hpasses =>
      refine ⟨?_, ?_, List.forall_mem_cons.mpr ⟨(fits_of_notMem hname).mpr hpasses, hfits⟩,
        fun a ha => ?_⟩
      · rwa [knownNames_cons_of_notMem hname]
      · rwa [knownNames_cons_of_notMem hname]
      · rcases halgorithm a ha with hd | ⟨v, hv, hnames⟩
        · exact Or.inl hd
        · exact Or.inr ⟨v, List.mem_cons_of_mem _ hv, hnames⟩

/-- A known member that fits does its step. -/
theorem exists_fieldStep {m : Member} (hname : m.1 ∈ known) (hfits : Fits m) (d : Draft) :
    ∃ d', FieldStep m.1 d m.2 d' := by
  unfold Fits at hfits
  split at hfits
  · rename_i P hP
    by_cases hm : m.1 = "alg"
    · have hP' : P = Matches NamesAlgorithm := by
        rw [hm] at hP
        exact (Option.some.inj hP).symm
      subst hP'
      obtain ⟨a, ha⟩ := hfits
      exact ⟨⟨m.1 :: d.seen, some a⟩, ⟨_, hP, a, ha⟩, rfl, fun hn => absurd hm hn,
        fun _ => ⟨a, ha, rfl⟩⟩
    · exact ⟨⟨m.1 :: d.seen, d.algorithm⟩, ⟨_, hP, hfits⟩, rfl, fun _ => rfl,
        fun hn => absurd hn hm⟩
  · rename_i hP
    exact absurd hname (lookup_eq_none_iff.mp hP)

theorem exists_steps {members : List Member} {d : Draft} (hsingle : (knownNames members).Nodup)
    (hfresh : ∀ name ∈ knownNames members, name ∉ d.seen) (hfits : ∀ m ∈ members, Fits m) :
    ∃ d', Steps Step d members d' ∧
      (∀ v a, ("alg", v) ∈ members → NamesAlgorithm v a → d'.algorithm = some a) ∧
      ("alg" ∉ members.map Prod.fst → d'.algorithm = d.algorithm) := by
  induction members generalizing d with
  | nil => exact ⟨d, .nil d, fun v a h => absurd h List.not_mem_nil, fun _ => rfl⟩
  | cons m members ih =>
    obtain ⟨hm, hfits⟩ := List.forall_mem_cons.mp hfits
    by_cases hname : m.1 ∈ known
    · rw [knownNames_cons_of_mem hname] at hsingle hfresh
      obtain ⟨hnot, hsingle⟩ := List.nodup_cons.mp hsingle
      obtain ⟨hnew, hfresh⟩ := List.forall_mem_cons.mp hfresh
      obtain ⟨mid, hstep⟩ := exists_fieldStep hname hm d
      have hfresh' : ∀ name ∈ knownNames members, name ∉ mid.seen := by
        intro name hmem hseen
        rw [hstep.seen] at hseen
        rcases List.mem_cons.mp hseen with rfl | hseen
        · exact hnot hmem
        · exact hfresh name hmem hseen
      obtain ⟨d', hsteps, halgorithm, hkept⟩ := ih hsingle hfresh' hfits
      refine ⟨d', .cons (.field hnew hstep) hsteps, fun v a hmem hnames => ?_, fun habsent => ?_⟩
      · rcases List.mem_cons.mp hmem with rfl | hmem
        · -- the name stands here, so it stands nowhere behind
          have habsent : "alg" ∉ members.map Prod.fst := fun h =>
            hnot (List.mem_filter.mpr ⟨h, List.contains_iff_mem.mpr hname⟩)
          obtain ⟨a', ha', hmid⟩ := hstep.algorithm rfl
          rw [hkept habsent, hmid, ha'.unique hnames]
        · exact halgorithm v a hmem hnames
      · rw [List.map_cons, List.mem_cons, not_or] at habsent
        rw [hkept habsent.2, hstep.kept fun h => habsent.1 h.symm]
    · rw [knownNames_cons_of_notMem hname] at hsingle hfresh
      obtain ⟨d', hsteps, halgorithm, hkept⟩ := ih hsingle hfresh hfits
      refine ⟨d', .cons (.other hname ((fits_of_notMem hname).mp hm)) hsteps,
        fun v a hmem hnames => ?_, fun habsent => ?_⟩
      · rcases List.mem_cons.mp hmem with rfl | hmem
        · exact absurd alg_mem_known hname
        · exact halgorithm v a hmem hnames
      · exact hkept fun h => habsent (List.mem_cons_of_mem _ h)

theorem isHeaderOf_iff {members : List Member} {name : String} :
    IsHeaderOf members name ↔
      ∃ d, Steps Step ⟨[], none⟩ members d ∧ d.algorithm = some name := by
  constructor
  · rintro ⟨hsingle, hfits, v, hv, hnames⟩
    obtain ⟨d, hsteps, halgorithm, -⟩ :=
      exists_steps (d := ⟨[], none⟩) hsingle (fun _ _ => List.not_mem_nil) hfits
    exact ⟨d, hsteps, halgorithm v name hv hnames⟩
  · rintro ⟨d, hsteps, hname⟩
    obtain ⟨hsingle, -, hfits, halgorithm⟩ := read_of_steps hsteps
    refine ⟨hsingle, hfits, ?_⟩
    rcases halgorithm name hname with h | h
    · cases h
    · exact h

/-! ## Arrays -/

/-- The values of all fields in their order are read like members. -/
theorem steps_of_inOrder {d d' : Draft} {members : List Member}
    (h : Steps (fun d m d' => FieldStep m.1 d m.2 d') d members d')
    (hnodup : (members.map Prod.fst).Nodup) (hfresh : ∀ m ∈ members, m.1 ∉ d.seen) :
    Steps Step d members d' := by
  induction h with
  | nil d => exact .nil d
  | @cons d mid d' m members step _ ih =>
    obtain ⟨hnew, hfresh⟩ := List.forall_mem_cons.mp hfresh
    rw [List.map_cons, List.nodup_cons] at hnodup
    refine .cons (.field hnew step) (ih hnodup.2 fun m' hm' hseen => ?_)
    rw [step.seen] at hseen
    rcases List.mem_cons.mp hseen with heq | hseen
    · exact hnodup.1 (heq ▸ List.mem_map_of_mem hm')
    · exact hfresh m' hm' hseen

theorem inOrder_of_steps {d d' : Draft} {members : List Member} (h : Steps Step d members d')
    (hknown : ∀ m ∈ members, m.1 ∈ known) :
    Steps (fun d m d' => FieldStep m.1 d m.2 d') d members d' := by
  induction h with
  | nil d => exact .nil d
  | cons step _ ih =>
    obtain ⟨hname, hknown⟩ := List.forall_mem_cons.mp hknown
    cases step with
    | field _ hstep => exact .cons hstep (ih hknown)
    | other hnot _ => exact absurd hname hnot

/-! ## Headers -/

theorem takes_reader :
    Takes (Json.readRecordWith (Json.readUtf8 Json.readQuoted) fields ⟨[], none⟩ Draft.algorithm)
      fun v name => ∃ members, Holds v members ∧ IsHeaderOf members name := by
  refine (Json.takes_readRecordWith Json.readUtf8_readQuoted_iff takes_fields
    FieldStep.starts).of_iff fun v name => exists_congr fun members => ?_
  have hsteps : Json.MemberStep fields FieldStep = Step := by
    funext d m d'
    exact propext memberStep_iff
  rw [hsteps, isHeaderOf_iff]
  constructor
  · rintro ⟨d, hname, ⟨hv, h⟩ | ⟨hv, hnames, h⟩⟩
    · exact ⟨Or.inl hv, d, h, hname⟩
    · have hnodup : (members.map Prod.fst).Nodup := by
        rw [hnames]
        decide
      exact ⟨Or.inr ⟨hnames, hv⟩, d,
        steps_of_inOrder h hnodup fun _ _ => List.not_mem_nil, hname⟩
  · rintro ⟨hv | ⟨hnames, hv⟩, d, h, hname⟩
    · exact ⟨d, hname, Or.inl ⟨hv, h⟩⟩
    · have hknown : ∀ m ∈ members, m.1 ∈ known := fun m hm => hnames ▸ List.mem_map_of_mem hm
      exact ⟨d, hname, Or.inr ⟨hv, hnames, inOrder_of_steps h hknown⟩⟩

/-- **The headers that are read**, and the algorithm that each of them names. -/
theorem algorithm?_eq_some_iff {bytes : List UInt8} {name : String} :
    algorithm? bytes = some name ↔ Names bytes name := by
  rw [algorithm?, Json.toOption_eq_some_iff, Json.decodeBytes, takes_reader.decode_iff,
    String.toList_ofList]
  constructor
  · rintro ⟨b, v, b', hb, ⟨members, hv, hmembers⟩, hb', hcs⟩
    exact ⟨b, v, b', members, hb, hb', hcs, hv, hmembers⟩
  · rintro ⟨b, v, b', members, hb, hb', hcs, hv, hmembers⟩
    exact ⟨b, v, b', hb, ⟨members, hv, hmembers⟩, hb', hcs⟩

/-- A header may be the array of all fields. -/
example : algorithm? (Hash.utf8
    "[\"JWT\",\"HS256\",null,null,null,null,null,null,null,null]") = some "HS256" := by
  decide +kernel

/-- The algorithm may be the key of an object. -/
example : algorithm? (Hash.utf8 "\x7b\"alg\":\x7b\"HS256\":null\x7d\x7d") = some "HS256" := by
  decide +kernel

/-! ## Headers that are objects -/

/-- The bytes are a header that names the algorithm as headers do: an object, in which the name
stands in quotes. -/
def IsUsual (bytes : List UInt8) (name : String) : Prop :=
  ∃ b v b' members w, Blanks b ∧ Blanks b' ∧ Json.byteChars bytes = b ++ (v ++ b') ∧
    IsObject SpellsUtf8 members v ∧ IsHeaderOf members name ∧ ("alg", w) ∈ members ∧ IsText w name

theorem IsUsual.names {bytes : List UInt8} {name : String} (h : IsUsual bytes name) :
    Names bytes name := by
  obtain ⟨b, v, b', members, -, hb, hb', hcs, hv, hheader, -⟩ := h
  exact ⟨b, v, b', members, hb, hb', hcs, Or.inl hv, hheader⟩

/-- The header of the tokens that the service signs is a usual one. -/
theorem isUsual_text : IsUsual (Hash.utf8 text) "HS256" := by
  have htyp : IsText (Json.inQuotes "JWT".toList) "JWT" := Json.isText_of_isPlainText (by decide)
  have halg : IsText (Json.inQuotes "HS256".toList) "HS256" :=
    Json.isText_of_isPlainText (by decide)
  have hobject : IsObject SpellsUtf8
      [("typ", Json.inQuotes "JWT".toList), ("alg", Json.inQuotes "HS256".toList)] _ :=
    ⟨_, _, .cons (Json.isMember_of_isPlainText (by decide) (by decide +kernel) _)
      (.cons (Json.isMember_of_isPlainText (by decide) (by decide +kernel) _) .nil),
      Json.listed_pair _ _, rfl⟩
  refine ⟨[], _, [], _, _, Json.blanks_nil, Json.blanks_nil, by decide +kernel, hobject, ?_,
    List.mem_cons_of_mem _ List.mem_cons_self, halg⟩
  refine ⟨by decide, ?_, _, List.mem_cons_of_mem _ List.mem_cons_self, by decide, Or.inl halg⟩
  simp only [List.forall_mem_cons]
  exact ⟨⟨⟨some "JWT", htyp⟩, by decide +kernel⟩, ⟨"HS256", by decide, Or.inl halg⟩,
    fun _ hm => absurd hm List.not_mem_nil⟩

end SessionAuth.Token.Header
