import SessionAuth.Proofs.Json.Shapes

/-!
# Records and the grammar

A record is an object whose known members stand once, each with a value of its field, or an array
of the values of all fields.

* `MemberStep`: what a member does to a record under construction.
* `takes_readRecordWith`: the main statement.
-/

namespace SessionAuth.Json

section Records

variable {σ α : Type} {fields : List (Field σ)} {R : String → σ → List Char → σ → Prop}
  {K : List Char → String → Prop} {key : Reader String} {s s' : σ} {cs rest : List Char}

/-- What a member of an object does to a record under construction: a known field stands for the
first time, and the value of any other is passed over. -/
def MemberStep (fields : List (Field σ)) (R : String → σ → List Char → σ → Prop) (s : σ)
    (m : String × List Char) (s' : σ) : Prop :=
  match fields.find? (·.name == m.1) with
  | some field => field.isSet s = false ∧ R m.1 s m.2 s'
  | none => Passes m.2 ∧ s' = s

theorem takes_error (e : Fault) : Takes (fun _ => (.error e : Except Fault (α × List Char)))
    fun _ _ => False where
  sound := fun h => nomatch h
  complete := fun _ h => h.elim

theorem takesMember_readMember (hfields : ∀ f ∈ fields, ∀ s, Takes (f.read s) (R f.name s)) :
    TakesMember (readMember fields) (MemberStep fields R) := by
  intro s name
  unfold readMember MemberStep
  dsimp only
  cases hfind : fields.find? (·.name == name) with
  | none => exact takes_colon (takes_skipValue s)
  | some field =>
    have hname : field.name = name := by simpa using List.find?_some hfind
    have htakes := hfields field (List.mem_of_find?_eq_some hfind) s
    rw [hname] at htakes
    dsimp only
    cases hset : field.isSet s with
    | true =>
      refine (takes_error .mismatch).of_iff fun v s' => ?_
      simp
    | false => exact (takes_colon htakes).of_iff fun v s' => by simp

/-! ## Arrays of fields -/

/-- What stands in an array behind one of its values: the other values, each after a comma. -/
inductive Continues : List (List Char) → List Char → Prop
  | nil {b : List Char} (hb : Blanks b) : Continues [] b
  | cons {b b' v more : List Char} {vs : List (List Char)} (hb : Blanks b) (hb' : Blanks b')
      (rest : Continues vs more) : Continues (v :: vs) (b ++ ',' :: (b' ++ (v ++ more)))

theorem listed_cons_iff {v body : List Char} {vs : List (List Char)} :
    Listed (v :: vs) body ↔ ∃ b more, Blanks b ∧ Continues vs more ∧ body = b ++ (v ++ more) := by
  induction vs generalizing v body with
  | nil =>
    constructor
    · intro h
      cases h with
      | last hb hb' => exact ⟨_, _, hb, .nil hb', rfl⟩
    · rintro ⟨b, more, hb, ⟨hb'⟩, rfl⟩
      exact .last hb hb'
  | cons w vs ih =>
    constructor
    · intro h
      cases h with
      | more hb hb' rest =>
        obtain ⟨b'', more, hb'', hmore, rfl⟩ := ih.mp rest
        exact ⟨_, _, hb, .cons hb' hb'' hmore, rfl⟩
    · rintro ⟨b, more, hb, hmore, rfl⟩
      cases hmore with
      | cons hb' hb'' hmore => exact .more hb hb' (ih.mpr ⟨_, _, hb'', hmore, rfl⟩)

theorem Continues.ends {vs : List (List Char)} {more : List Char} (h : Continues vs more)
    (rest : List Char) : Ends (more ++ ']' :: rest) := by
  cases h with
  | nil hb => exact hb.ends (ends_cons (by simp) _)
  | cons hb _ _ =>
    rw [List.append_assoc]
    exact hb.ends (ends_cons (by simp) _)

/-- The values of the fields, in their order, one step for each of them. -/
def StepsInOrder (fields : List (Field σ)) (R : String → σ → List Char → σ → Prop) (s : σ)
    (members : List (String × List Char)) (s' : σ) : Prop :=
  members.map Prod.fst = fields.map Field.name ∧
    Steps (fun s m s' => R m.1 s m.2 s') s members s'

theorem readRest_eq_ok_iff (hfields : ∀ f ∈ fields, ∀ s, Takes (f.read s) (R f.name s)) :
    readRest fields s cs = .ok (s', rest) ↔
      ∃ members more, StepsInOrder fields R s members s' ∧
        Continues (members.map Prod.snd) more ∧ cs = more ++ ']' :: rest := by
  induction fields generalizing s cs with
  | nil =>
    constructor
    · intro h
      obtain ⟨_, hclose, hpure⟩ := ok_of_bind h
      obtain ⟨rfl, rfl⟩ := Prod.mk.inj (Except.ok.inj hpure)
      obtain ⟨b, hb, rfl⟩ := (skipBlank_eq_cons_iff (by decide)).mp (expect_eq_ok_iff.mp hclose)
      exact ⟨[], b, ⟨rfl, .nil s⟩, .nil hb, rfl⟩
    · rintro ⟨members, more, ⟨hnames, hsteps⟩, hmore, rfl⟩
      obtain rfl : members = [] := by simpa using hnames
      cases hsteps
      cases hmore with
      | nil hb =>
        simp only [readRest, skipBlank_blanks hb,
          skipBlank_cons (show isBlank ']' = false by decide), expect_eq_ok_iff.mpr rfl, bind,
          Except.bind, pure, Except.pure]
  | cons field fields ih =>
    have hfield := hfields field List.mem_cons_self
    have htail := fun f hf => hfields f (List.mem_cons_of_mem _ hf)
    constructor
    · intro h
      obtain ⟨b, hb, hcs⟩ := exists_skipBlank cs
      unfold readRest at h
      split at h
      · cases h
      · rename_i after hskip
        obtain ⟨⟨mid, afterValue⟩, hvalue, hrest⟩ := ok_of_bind h
        obtain ⟨b', v, hb', hv, rfl⟩ := (hfield s).sound hvalue
        obtain ⟨members, more, ⟨hnames, hsteps⟩, hmore, rfl⟩ := (ih htail).mp hrest
        refine ⟨(field.name, v) :: members, _, ⟨by simp [hnames], .cons hv hsteps⟩,
          .cons hb hb' hmore, ?_⟩
        rw [hcs, hskip]
        simp
      · cases h
    · rintro ⟨members, more, ⟨hnames, hsteps⟩, hmore, rfl⟩
      cases hsteps with
      | nil => simp at hnames
      | @cons _ mid _ m members hm hsteps =>
        obtain ⟨hname, hnames⟩ := List.cons.inj hnames
        cases hmore with
        | @cons b b' _ more _ hb hb' hmore =>
          have hrest : readRest fields mid (more ++ ']' :: rest) = .ok (s', rest) :=
            (ih htail).mpr ⟨members, more, ⟨hnames, hsteps⟩, hmore, rfl⟩
          have hm' : R field.name s m.2 mid := hname ▸ hm
          have hvalue := (hfield s).complete hb' hm' (hmore.ends rest)
          have hcs : b ++ ',' :: (b' ++ (m.2 ++ more)) ++ ']' :: rest =
              b ++ ',' :: (b' ++ (m.2 ++ (more ++ ']' :: rest))) := by simp
          unfold readRest
          rw [hcs, skipBlank_blanks hb, skipBlank_cons (by decide)]
          simp only [hvalue, bind, Except.bind, hrest]

theorem readInOrder_eq_ok_iff (hfields : ∀ f ∈ fields, ∀ s, Takes (f.read s) (R f.name s))
    (hstarts : ∀ {name s v s'}, R name s v s' → Starts v) :
    readInOrder fields s cs = .ok (s', rest) ↔
      ∃ members v, StepsInOrder fields R s members s' ∧ IsArray (members.map Prod.snd) v ∧
        '[' :: cs = v ++ rest := by
  cases fields with
  | nil =>
    rw [readInOrder, readRest_eq_ok_iff hfields]
    constructor
    · rintro ⟨members, more, ⟨hnames, hsteps⟩, hmore, rfl⟩
      obtain rfl : members = [] := by simpa using hnames
      cases hmore with
      | nil hb => exact ⟨[], _, ⟨hnames, hsteps⟩, ⟨more, .none hb, rfl⟩, by simp⟩
    · rintro ⟨members, _, ⟨hnames, hsteps⟩, ⟨body, hlist, rfl⟩, hcs⟩
      obtain rfl : members = [] := by simpa using hnames
      cases hlist with
      | none hb => exact ⟨[], body, ⟨hnames, hsteps⟩, .nil hb, by simpa using hcs⟩
  | cons field fields =>
    have hfield := hfields field List.mem_cons_self
    have htail := fun f hf => hfields f (List.mem_cons_of_mem _ hf)
    constructor
    · intro h
      obtain ⟨b, hb, hcs⟩ := exists_skipBlank cs
      simp only [readInOrder] at h
      split at h
      · cases h
      · obtain ⟨⟨mid, afterValue⟩, hvalue, hrest⟩ := ok_of_bind h
        obtain ⟨b', v, hb', hv, hskip⟩ := (hfield s).sound hvalue
        obtain ⟨members, more, ⟨hnames, hsteps⟩, hmore, rfl⟩ :=
          (readRest_eq_ok_iff htail).mp hrest
        refine ⟨(field.name, v) :: members, _, ⟨by simp [hnames], .cons hv hsteps⟩,
          ⟨_, listed_cons_iff.mpr ⟨b ++ b', more, hb.append hb', hmore, rfl⟩, rfl⟩, ?_⟩
        rw [hcs, hskip]
        simp
    · rintro ⟨members, _, ⟨hnames, hsteps⟩, ⟨body, hlist, rfl⟩, hcs⟩
      cases hsteps with
      | nil => simp at hnames
      | @cons _ mid _ m members hm hsteps =>
        obtain ⟨hname, hnames⟩ := List.cons.inj hnames
        obtain ⟨b, more, hb, hmore, rfl⟩ := listed_cons_iff.mp hlist
        have hrest : readRest fields mid (more ++ ']' :: rest) = .ok (s', rest) :=
          (readRest_eq_ok_iff htail).mpr ⟨members, more, ⟨hnames, hsteps⟩, hmore, rfl⟩
        have hm' : R field.name s m.2 mid := hname ▸ hm
        have hvalue : field.read s (m.2 ++ (more ++ ']' :: rest)) =
            .ok (mid, more ++ ']' :: rest) := (hfield s).complete blanks_nil hm' (hmore.ends rest)
        obtain rfl : cs = b ++ (m.2 ++ (more ++ ']' :: rest)) := by simpa using hcs
        obtain ⟨c, ds, hv, hc, hbracket, -⟩ := hstarts hm
        rw [readInOrder, (hstarts hm).skipBlank_eq hb]
        split
        · rename_i heq
          rw [hv] at heq
          exact absurd (List.cons.inj heq).1 hbracket
        · simp only [hvalue, bind, Except.bind, hrest]

/-! ## Records -/

theorem finishRecord_eq_ok_iff {finish : σ → Option α} {a : α} {rest' : List Char} :
    finishRecord finish s rest = .ok (a, rest') ↔ finish s = some a ∧ rest = rest' := by
  unfold finishRecord
  split
  · rename_i ha
    simp [ha]
  · rename_i ha
    simp [ha]

theorem takes_readRecordWith {empty : σ} {finish : σ → Option α}
    (hkey : ∀ {cs name rest}, key cs = .ok (name, rest) ↔ ∃ k, K k name ∧ cs = k ++ '"' :: rest)
    (hfields : ∀ f ∈ fields, ∀ s, Takes (f.read s) (R f.name s))
    (hstarts : ∀ {name s v s'}, R name s v s' → Starts v) :
    Takes (readRecordWith key fields empty finish) fun v a => ∃ members s, finish s = some a ∧
      (IsObject K members v ∧ Steps (MemberStep fields R) empty members s ∨
        IsArray (members.map Prod.snd) v ∧ StepsInOrder fields R empty members s) := by
  constructor
  · intro cs a rest h
    obtain ⟨b, hb, hcs⟩ := exists_skipBlank cs
    unfold readRecordWith at h
    split at h
    · rename_i after hskip
      obtain ⟨⟨s, _⟩, hobject, hend⟩ := ok_of_bind h
      obtain ⟨hs, rfl⟩ := finishRecord_eq_ok_iff.mp hend
      obtain ⟨members, v, hv, hsteps, hspan⟩ :=
        (readObject_eq_ok_iff hkey (takesMember_readMember hfields)).mp hobject
      exact ⟨b, v, hb, ⟨members, s, hs, Or.inl ⟨hv, hsteps⟩⟩, by rw [hcs, hskip, hspan]⟩
    · rename_i after hskip
      obtain ⟨⟨s, _⟩, harray, hend⟩ := ok_of_bind h
      obtain ⟨hs, rfl⟩ := finishRecord_eq_ok_iff.mp hend
      obtain ⟨members, v, hsteps, hv, hspan⟩ := (readInOrder_eq_ok_iff hfields hstarts).mp harray
      exact ⟨b, v, hb, ⟨members, s, hs, Or.inr ⟨hv, hsteps⟩⟩, by rw [hcs, hskip, hspan]⟩
    · exact absurd h (refuseWith_ne_ok _ _ _)
  · rintro b v a rest hb ⟨members, s, hs, ⟨hv, hsteps⟩ | ⟨hv, hsteps⟩⟩ _
    · obtain ⟨pieces, body, hpieces, hlist, rfl⟩ := hv
      have hread : readObject key (readMember fields) empty ((body ++ ['}']) ++ rest) =
          .ok (s, rest) :=
        (readObject_eq_ok_iff hkey (takesMember_readMember hfields)).mpr
          ⟨members, _, ⟨pieces, body, hpieces, hlist, rfl⟩, hsteps, rfl⟩
      rw [readRecordWith, skipBlank_blanks hb, List.cons_append, skipBlank_cons (by decide)]
      simp only [hread, bind, Except.bind]
      exact finishRecord_eq_ok_iff.mpr ⟨hs, rfl⟩
    · obtain ⟨body, hlist, rfl⟩ := hv
      have hread : readInOrder fields empty ((body ++ [']']) ++ rest) = .ok (s, rest) :=
        (readInOrder_eq_ok_iff hfields hstarts).mpr
          ⟨members, _, hsteps, ⟨body, hlist, rfl⟩, rfl⟩
      rw [readRecordWith, skipBlank_blanks hb, List.cons_append, skipBlank_cons (by decide)]
      simp only [hread, bind, Except.bind]
      exact finishRecord_eq_ok_iff.mpr ⟨hs, rfl⟩

end Records

end SessionAuth.Json
