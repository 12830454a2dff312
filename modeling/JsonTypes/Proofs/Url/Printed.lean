import JsonTypes.Proofs.Url.Plain

/-!
# The characters of printed URLs

Whatever text is read, the URL is printed in visible ASCII characters without a number sign. Only
the path of a URL that no reference can be relative to may also have spaces, but not at its end
(`Printable`). This holds of every URL that is read on its own or as a reference
(`Read.printable`).
-/

namespace JsonTypes.Url

/-! ## Paths -/

theorem directoryOf_subset (path : List Char) : directoryOf path ⊆ path := by
  intro c hc
  rw [directoryOf, List.mem_reverse] at hc
  exact List.mem_reverse.1 ((List.dropWhile_sublist _).subset hc)

theorem popSegment_subset (kind : SchemeKind) (path : List Char) :
    popSegment kind path ⊆ path := by
  unfold popSegment
  split_ifs
  · exact List.Subset.refl path
  · exact directoryOf_subset path

theorem goUp_subset (kind : SchemeKind) (path : List Char) : goUp kind path ⊆ path := by
  unfold goUp
  dsimp only
  split_ifs
  · exact List.Subset.trans (popSegment_subset kind _) (List.dropLast_subset path)
  · exact popSegment_subset kind path

theorem plain_endWithSlash {path : List Char} (h : Plain path) : Plain (endWithSlash path) := by
  unfold endWithSlash
  split_ifs
  · exact h
  · exact plain_append.2 ⟨h, by decide⟩

theorem plain_addSegment {kind : SchemeKind} {s : PathState} {segment : List Char}
    (h : Plain s.path) (hsegment : Plain segment) (slash : Bool) :
    Plain (s.addSegment kind segment slash).path := by
  have hup : Plain (goUp kind s.path) := h.subset (goUp_subset kind s.path)
  have htail : Plain (if slash then ['/'] else []) := by cases slash <;> decide
  have hplain := plain_append.2 ⟨plain_append.2 ⟨h, hsegment⟩, htail⟩
  unfold PathState.addSegment
  dsimp only
  by_cases htwo : decodePoints segment = ['.', '.']
  · rw [if_pos htwo]
    cases slash
    · exact hup
    · exact plain_endWithSlash hup
  rw [if_neg htwo]
  by_cases hone : decodePoints segment = ['.']
  · rw [if_pos hone]
    exact plain_endWithSlash h
  rw [if_neg hone]
  split
  · split
    · have hdrive : Plain [_, ':'] := plain_cons.2 ⟨hsegment _ List.mem_cons_self, by decide⟩
      exact plain_append.2 ⟨plain_append.2 ⟨h, hdrive⟩, htail⟩
    · exact hplain
  · exact hplain

theorem plain_beforeText {kind : SchemeKind} {s : PathState} (h : Plain s.path) :
    Plain (s.beforeText kind).path := by
  unfold PathState.beforeText
  split
  · split_ifs
    · exact plain_append.2 ⟨h, by decide⟩
    · exact h
  · exact h

theorem plain_readSegments {kind : SchemeKind} (text : List Char) {segment : List Char}
    {s : PathState} (h : Plain s.path) (hsegment : Plain segment) :
    Plain (readSegments kind text segment s).1.path := by
  have hreverse {segment : List Char} (hsegment : Plain segment) : Plain segment.reverse :=
    fun c hc => hsegment c (List.mem_reverse.1 hc)
  induction text generalizing segment s with
  | nil => exact plain_addSegment h (hreverse hsegment) false
  | cons c text ih =>
    have hencode : Plain (percentEncode pathSet [c]) :=
      plain_percentEncode (fun _ => querySet_of_pathSet) [c]
    have hbefore : Plain (if segment.isEmpty then s.beforeText kind else s).path := by
      split_ifs
      · exact plain_beforeText h
      · exact h
    rw [readSegments]
    split
    · exact ih (plain_addSegment h (hreverse hsegment) true) plain_nil
    split
    · exact plain_addSegment h (hreverse hsegment) false
    · exact ih hbefore (plain_append.2 ⟨hreverse hencode, hsegment⟩)

theorem plain_readPath {kind : SchemeKind} {hasHost : Bool} {path : List Char} (h : Plain path)
    (text : List Char) : Plain (readPath kind hasHost path text).1.path := by
  have hread : Plain (readSegments kind text [] ⟨path, hasHost⟩).1.path :=
    plain_readSegments text h plain_nil
  unfold readPath
  dsimp only
  split_ifs
  · exact plain_cons.2 ⟨by decide, hread.subset (List.dropWhile_sublist _).subset⟩
  · exact hread

/-! ## Opaque paths -/

theorem utf8Bytes_ne_nil (c : Char) : Text.utf8Bytes c ≠ [] := by
  intro h
  have hlength := congrArg List.length h
  simp [Text.utf8Bytes] at hlength

theorem head?_percentEncode {set : Char → Bool} {c d : Char} {cs : List Char}
    (h : d ∈ (percentEncode set (c :: cs)).head?) : d = '%' ∨ d = c := by
  rw [percentEncode] at h
  split_ifs at h
  · rcases hbytes : Text.utf8Bytes c with _ | ⟨b, bytes⟩
    · exact absurd hbytes (utf8Bytes_ne_nil c)
    · rw [hbytes] at h
      exact .inl (Option.some.inj h).symm
  · exact .inr (Option.some.inj h).symm

theorem percentEncode_append (set : Char → Bool) (as bs : List Char) :
    percentEncode set (as ++ bs) = percentEncode set as ++ percentEncode set bs := by
  induction as with
  | nil => rfl
  | cons a as ih => rw [List.cons_append, percentEncode, percentEncode, ih, List.append_assoc]

/-- What is encoded ends with a plain character, unless the last character is left as it is. -/
theorem getLast?_percentEncode {set : Char → Bool} {cs : List Char} {c : Char}
    (h : c ∈ (percentEncode set cs).getLast?) :
    isPlain c = true ∨ c ∈ cs.getLast? ∧ set c = false := by
  rcases List.eq_nil_or_concat cs with rfl | ⟨front, last, rfl⟩
  · cases h
  rw [List.concat_eq_append, percentEncode_append, percentEncode, percentEncode, List.append_nil,
    List.getLast?_append] at h
  rw [List.concat_eq_append, List.getLast?_concat]
  split_ifs at h with hset
  · rcases hlast : ((Text.utf8Bytes last).flatMap encodeByte).getLast? with _ | d
    · rcases hbytes : Text.utf8Bytes last with _ | ⟨b, bytes⟩
      · exact absurd hbytes (utf8Bytes_ne_nil last)
      · simp [hbytes, encodeByte] at hlast
    · rw [hlast] at h
      obtain rfl := Option.some.inj h
      obtain ⟨b, -, hb⟩ := List.mem_flatMap.1 (List.mem_of_getLast? hlast)
      exact .inl (plain_encodeByte b d hb)
  · obtain rfl := Option.some.inj h
    exact .inr ⟨rfl, by simpa using hset⟩

/-- The path of a URL that no reference can be relative to, as it is printed. -/
structure OpaquePath (u : Url) : Prop where
  kind : u.kind = .other
  isOpaque : u.isOpaque = true
  chars : ∀ c ∈ u.path, isPlain c = true ∨ c = ' '
  last : u.query = none → ∀ c ∈ u.path.getLast?, isPlain c = true

/-- A URL whose parts are printed in plain characters. -/
structure Printable (u : Url) : Prop where
  scheme : Plain u.scheme
  authority : ∀ a ∈ u.authority, Plain a.userinfo ∧ Plain a.host
  path : Plain u.path ∨ OpaquePath u
  query : ∀ q ∈ u.query, Plain q

theorem printable_finish {scheme path rest : List Char} {kind : SchemeKind}
    {authority : Option Authority} (hscheme : Plain scheme)
    (hauthority : ∀ a ∈ authority, Plain a.userinfo ∧ Plain a.host) (hpath : Plain path) :
    Printable (finish scheme kind authority path rest) :=
  ⟨hscheme, hauthority, .inl hpath, fun _ h => plain_readQuery h⟩

/-! ## Authorities -/

theorem plain_readAuthority {scheme text left : List Char} {kind : SchemeKind} {isLast : Bool}
    {authority : Authority} (h : readAuthority? scheme kind text isLast = some (authority, left)) :
    Plain authority.userinfo ∧ Plain authority.host := by
  unfold readAuthority? at h
  dsimp only at h
  split at h
  · cases h
  · split at h
    · obtain ⟨host, hhost, h⟩ := Option.bind_eq_some_iff.1 h
      split_ifs at h
      obtain ⟨port, -, h⟩ := Option.bind_eq_some_iff.1 h
      cases h
      exact ⟨plain_renderUserinfo _, plain_specialHost hhost⟩
    · obtain ⟨host, hhost, h⟩ := Option.bind_eq_some_iff.1 h
      split_ifs at h
      obtain ⟨port, -, h⟩ := Option.bind_eq_some_iff.1 h
      cases h
      exact ⟨plain_renderUserinfo _, plain_opaqueHost hhost⟩

theorem printable_afterSlashes {scheme cs : List Char} {kind : SchemeKind} {u : Url}
    (hscheme : Plain scheme) (h : afterSlashes? scheme kind cs = some u) : Printable u := by
  obtain ⟨⟨authority, left⟩, hread, h⟩ := Option.bind_eq_some_iff.1 h
  have hauthority : ∀ a ∈ some authority, Plain a.userinfo ∧ Plain a.host := fun a ha =>
    Option.some.inj ha ▸ plain_readAuthority hread
  have hroot : Plain ['/'] := by decide
  dsimp only at h
  split at h
  · exact Option.some.inj h ▸ printable_finish hscheme hauthority plain_nil
  · exact Option.some.inj h ▸ printable_finish hscheme hauthority plain_nil
  · exact Option.some.inj h ▸ printable_finish hscheme hauthority (plain_readPath hroot _)
  · exact Option.some.inj h ▸ printable_finish hscheme hauthority (plain_readPath hroot _)

theorem printable_readOther {scheme cs : List Char} {u : Url} (hscheme : Plain scheme)
    (hkind : SchemeKind.ofScheme scheme = .other) (hsign : '#' ∉ cs) (hlast : ' ' ∉ cs.getLast?)
    (h : readOther? scheme cs = some u) : Printable u := by
  have hroot : Plain ['/'] := by decide
  unfold readOther? at h
  split at h
  · exact printable_afterSlashes hscheme h
  · exact Option.some.inj h ▸ printable_finish hscheme nofun (plain_readSegments _ hroot plain_nil)
  · rename_i hslash
    obtain rfl := Option.some.inj h
    refine ⟨hscheme, nofun, .inr ⟨hkind, ?_, fun c hc => ?_, fun hquery c hc => ?_⟩,
      fun _ h => plain_readQuery h⟩
    · have hhead : (percentEncode controlSet (cs.takeWhile (· ≠ '?'))).head? ≠ some '/' := by
        rcases htake : cs.takeWhile (· ≠ '?') with _ | ⟨d, ds⟩
        · exact nofun
        · intro hd
          have hcs : cs.head? = some d := by
            rw [← List.takeWhile_append_dropWhile (p := (· ≠ '?')) (l := cs), htake]
            rfl
          rcases head?_percentEncode hd with heq | rfl
          · exact absurd heq (by decide)
          · obtain ⟨rest, rfl⟩ := List.head?_eq_some_iff.1 hcs
            exact hslash rest rfl
      simpa [isOpaque, finish] using hhead
    · dsimp only [finish] at hc
      rcases mem_percentEncode hc with hplain | ⟨hmem, hset⟩
      · exact .inl hplain
      · have hc : c ∈ cs := (List.takeWhile_sublist _).subset hmem
        rw [or_iff_not_imp_right]
        exact fun hspace => isPlain_of_controlSet hset hspace fun heq => hsign (heq ▸ hc)
    · dsimp only [finish] at hc hquery
      have hwhole : cs.dropWhile (· ≠ '?') = [] := by
        rcases hrest : cs.dropWhile (· ≠ '?') with _ | ⟨d, rest⟩
        · rfl
        · have hd := List.head?_dropWhile_not (· ≠ '?') cs
          rw [hrest] at hd hquery
          obtain rfl : d = '?' := by simpa using hd
          cases hquery
      have htake := List.takeWhile_append_dropWhile (p := (· ≠ '?')) (l := cs)
      rw [hwhole, List.append_nil] at htake
      rw [htake] at hc
      rcases getLast?_percentEncode hc with hplain | ⟨hmem, hset⟩
      · exact hplain
      · exact isPlain_of_controlSet hset (fun heq => hlast (heq ▸ hmem))
          fun heq => hsign (heq ▸ List.mem_of_getLast? hmem)

/-! ## Files -/

section Files

variable {base u : Url} {cs : List Char}

theorem printable_fileUrl {host path rest : List Char} (hhost : Plain host) (hpath : Plain path) :
    Printable (fileUrl host path rest) := by
  refine printable_finish (by decide) (fun a ha => ?_) hpath
  obtain rfl := Option.some.inj ha
  exact ⟨plain_nil, hhost⟩

theorem printable_fileAfterSlashes (h : fileAfterSlashes? cs = some u) : Printable u := by
  have hroot : Plain ['/'] := by decide
  have hlocal {host : List Char} (hhost : Plain host) :
      Plain (if host = "localhost".toList then [] else host) := by
    split_ifs
    · exact plain_nil
    · exact hhost
  have hkept {host : List Char} (hhost : Plain host) (kept : Bool) :
      Plain (if kept then host else []) := by
    cases kept
    · exact plain_nil
    · exact hhost
  unfold fileAfterSlashes? at h
  dsimp only at h
  split at h <;> obtain ⟨host, hhost, h⟩ := Option.bind_eq_some_iff.1 h
  · have hplain := hlocal (Option.some.inj hhost ▸ plain_nil : Plain host)
    generalize (if host = "localhost".toList then [] else host) = host at h hplain
    split at h <;> obtain rfl := Option.some.inj h
    · exact printable_fileUrl plain_nil (plain_readPath hroot _)
    · exact printable_fileUrl (hkept hplain _) (plain_readPath hroot _)
  · have hplain := hlocal (plain_specialHost hhost)
    generalize (if host = "localhost".toList then [] else host) = host at h hplain
    split at h <;> obtain rfl := Option.some.inj h
    · exact printable_fileUrl plain_nil (plain_readPath hroot _)
    · exact printable_fileUrl (hkept hplain _) (plain_readPath hroot _)

theorem Printable.plain_hostOf (h : Printable base) : Plain (hostOf base) := by
  unfold hostOf
  split
  · exact (h.authority _ ‹_›).2
  · exact plain_nil

/-- The path of a URL that references can be relative to is plain. -/
theorem Printable.plain_path (h : Printable base)
    (hbase : base.isOpaque = false ∨ base.kind ≠ .other) : Plain base.path := by
  rcases h.path with hplain | hspaced
  · exact hplain
  · rcases hbase with hbase | hbase
    · rw [hspaced.isOpaque] at hbase
      cases hbase
    · exact absurd hspaced.kind hbase

theorem plain_firstSegment {path : List Char} (h : Plain path) : Plain (firstSegment path) :=
  h.subset ((List.takeWhile_sublist _).trans (List.tail_sublist path)).subset

variable {base : Option Url} (hbase : ∀ b ∈ base, Printable b ∧ b.kind ≠ .other)

include hbase

theorem printable_oneSlash (h : readFile?.oneSlash base cs = some u) : Printable u := by
  have hroot : Plain ['/'] := by decide
  have hfresh {cs : List Char} (h : readFile?.fresh cs = some u) : Printable u := by
    unfold readFile?.fresh at h
    dsimp only at h
    obtain rfl := Option.some.inj h
    exact printable_fileUrl plain_nil (plain_readPath hroot cs)
  have hpath : ∀ b ∈ base, Plain b.path := fun b hb =>
    (hbase b hb).1.plain_path (.inr (hbase b hb).2)
  have hhost : Plain (base.elim [] hostOf) := by
    rcases base with _ | b
    · exact plain_nil
    · exact (hbase b rfl).1.plain_hostOf
  have hsegment : Plain ('/' :: base.elim [] fun b => firstSegment b.path) := by
    rcases base with _ | b
    · exact hroot
    · exact plain_cons.2 ⟨by decide, plain_firstSegment (hpath b rfl)⟩
  unfold readFile?.oneSlash at h
  split at h
  · dsimp only at h
    split at h
    · obtain rfl := Option.some.inj h
      refine printable_fileUrl ?_ (plain_readPath ?_ _)
      · split_ifs
        · exact plain_nil
        · exact plain_nil
        · exact hhost
      · split_ifs
        · exact plain_nil
        · exact hsegment
        · exact plain_nil
    · split at h
      · exact hfresh h
      · rename_i b
        have hb := (hbase b rfl).1
        split at h
        · exact Option.some.inj h ▸
            ⟨hb.scheme, hb.authority, .inl (hpath b rfl), fun _ hq => plain_readQuery hq⟩
        split at h
        · exact hfresh h
        · obtain rfl := Option.some.inj h
          exact printable_finish (by decide) hb.authority
            (plain_readPath ((hpath b rfl).subset (popSegment_subset _ _)) _)
  · exact Option.some.inj h ▸ (hbase _ rfl).1
  · exact hfresh h

theorem printable_readFile (h : readFile? base cs = some u) : Printable u := by
  unfold readFile? at h
  split at h
  · split_ifs at h
    · exact printable_fileAfterSlashes h
    · exact printable_oneSlash hbase h
  · exact printable_oneSlash hbase h

end Files

/-! ## References -/

theorem printable_readRelative {base u : Url} {cs : List Char} (hbase : Printable base)
    (hrelative : base.isOpaque = false ∨ base.kind ≠ .other)
    (h : readRelative? base cs = some u) : Printable u := by
  have hroot : Plain ['/'] := by decide
  have hpath := hbase.plain_path hrelative
  have hup : Plain (popSegment base.kind base.path) := hpath.subset (popSegment_subset _ _)
  unfold readRelative? at h
  dsimp only at h
  split at h
  · exact Option.some.inj h ▸ hbase
  split at h
  · exact Option.some.inj h ▸
      ⟨hbase.scheme, hbase.authority, .inl hpath, fun _ hq => plain_readQuery hq⟩
  split at h
  · split at h
    · split at h
      · exact printable_afterSlashes hbase.scheme h
      · exact Option.some.inj h ▸
          printable_finish hbase.scheme hbase.authority (plain_readPath hroot _)
    · exact Option.some.inj h ▸
        printable_finish hbase.scheme hbase.authority (plain_readPath hroot _)
  · refine Option.some.inj h ▸ printable_finish hbase.scheme hbase.authority (plain_readPath ?_ _)
    split_ifs
    · exact hroot
    · exact hup

theorem printable_readWithScheme {base : Option Url} {u : Url} {scheme cs : List Char}
    (hbase : ∀ b ∈ base, Printable b) (hscheme : Plain scheme) (hsign : '#' ∉ cs)
    (hlast : ' ' ∉ cs.getLast?) (h : readWithScheme? base scheme cs = some u) : Printable u := by
  unfold readWithScheme? at h
  split at h
  · refine printable_readFile (fun b hb => ?_) h
    rw [Option.mem_def, Option.filter_eq_some_iff] at hb
    refine ⟨hbase b hb.1, ?_⟩
    rw [kind, of_decide_eq_true hb.2]
    decide
  · exact printable_readOther hscheme ‹_› hsign hlast h
  · dsimp only at h
    split at h
    · split at h
      · rename_i b hsame
        refine printable_readRelative (hbase b rfl) (.inr ?_) h
        rw [kind, hsame.2, ‹SchemeKind.ofScheme scheme = _›]
        decide
      · exact printable_afterSlashes hscheme h
    · exact printable_afterSlashes hscheme h

theorem toNat_lt_of_isSchemeChar {c : Char} (h : isSchemeChar c = true) : c.toNat < 0x80 := by
  have hle {d : Char} (hd : d.toNat < 0x80) (hcd : c ≤ d) : c.toNat < 0x80 :=
    Nat.lt_of_le_of_lt (UInt32.le_iff_toNat_le.1 hcd) hd
  simp only [isSchemeChar, isAsciiAlpha, isAsciiDigit, Bool.or_eq_true, Bool.and_eq_true,
    decide_eq_true_eq] at h
  rcases h with ((((h | h) | h) | rfl) | rfl) | rfl
  · exact hle (by decide) h.2
  · exact hle (by decide) h.2
  · exact hle (by decide) h.2
  · decide
  · decide
  · decide

theorem isPlain_asciiLower {c : Char} (h : isSchemeChar c = true) :
    isPlain (asciiLower c) = true := by
  have hall : ∀ n < 0x80, isSchemeChar (Char.ofNat n) = true →
      isPlain (asciiLower (Char.ofNat n)) = true := by decide
  have hc := hall c.toNat (toNat_lt_of_isSchemeChar h)
  rw [Char.ofNat_toNat] at hc
  exact hc h

/-- The scheme is plain, and what follows it is the end of the text. -/
theorem scheme_spec {cs scheme rest : List Char} (h : scheme? cs = some (scheme, rest)) :
    Plain scheme ∧ rest <:+ cs := by
  unfold scheme? at h
  split at h
  · rename_i hrest
    split_ifs at h
    cases h
    refine ⟨fun c hc => ?_, ?_⟩
    · obtain ⟨d, hd, rfl⟩ := List.mem_map.1 hc
      exact isPlain_asciiLower (List.all_eq_true.1 List.all_takeWhile d hd)
    · have hsuffix := List.dropWhile_suffix isSchemeChar (l := cs)
      rw [hrest] at hsuffix
      exact (List.suffix_cons _ _).trans hsuffix
  · cases h

/-- The text that counts is without controls and spaces at its end. -/
theorem space_not_mem_getLast?_significant (s : String) : ' ' ∉ (significant s).getLast? := by
  unfold significant
  dsimp only
  rcases hrest : (s.toList.dropWhile isControlOrSpace).reverse.dropWhile isControlOrSpace
    with _ | ⟨c, rest⟩
  · exact nofun
  · have hc := List.head?_dropWhile_not isControlOrSpace
      (s.toList.dropWhile isControlOrSpace).reverse
    rw [hrest] at hc
    have hcounts : isControlOrSpace c ≠ true := Bool.eq_false_iff.1 hc
    have hkept : [c].filter (!isTabOrNewline ·) = [c] := by
      refine List.filter_cons_of_pos ?_
      simp only [isTabOrNewline, Bool.not_eq_true', Bool.or_eq_false_iff, decide_eq_false_iff_not]
      refine ⟨⟨?_, ?_⟩, ?_⟩ <;> rintro rfl <;> exact hcounts (by decide)
    rw [List.reverse_cons, List.filter_append, hkept, List.getLast?_concat]
    rintro ⟨⟩
    exact hcounts (by decide)

theorem significant_subset (s : String) : significant s ⊆ s.toList := by
  intro c hc
  have hmem := List.mem_reverse.1 (List.mem_filter.1 hc).1
  exact (List.dropWhile_sublist _).subset
    (List.mem_reverse.1 ((List.dropWhile_sublist _).subset hmem))

/-- The URLs that are read from addresses and references without their fragments. -/
inductive Read : Url → Prop
  | parse {s : String} {u : Url} : '#' ∉ s.toList → parse? s = some u → Read u
  | join {base u : Url} {s : String} : Read base → '#' ∉ s.toList → base.join? s = some u → Read u

/-- What follows the scheme of a text has no number sign and does not end with a space either. -/
theorem scheme_rest {s : String} {scheme rest : List Char} (hsign : '#' ∉ s.toList)
    (h : scheme? (significant s) = some (scheme, rest)) :
    Plain scheme ∧ '#' ∉ rest ∧ ' ' ∉ rest.getLast? := by
  obtain ⟨hscheme, front, hfront⟩ := scheme_spec h
  have hspace := space_not_mem_getLast?_significant s
  rw [← hfront, List.getLast?_append] at hspace
  refine ⟨hscheme, fun hmem => hsign (significant_subset s ?_), fun hlast => hspace ?_⟩
  · exact hfront ▸ List.mem_append_right front hmem
  · rw [Option.mem_def.1 hlast]
    rfl

theorem printable_of_parse {s : String} {u : Url} (hsign : '#' ∉ s.toList)
    (h : parse? s = some u) : Printable u := by
  obtain ⟨⟨scheme, rest⟩, hscheme, h⟩ := Option.bind_eq_some_iff.1 h
  obtain ⟨hplain, hrest, hlast⟩ := scheme_rest hsign hscheme
  exact printable_readWithScheme (fun b hb => absurd hb (Option.not_mem_none b)) hplain hrest hlast h

theorem printable_of_join {base u : Url} {s : String} (hbase : Printable base)
    (hsign : '#' ∉ s.toList) (h : base.join? s = some u) : Printable u := by
  have hbase' : ∀ b ∈ some base, Printable b := fun b hb => Option.some.inj hb ▸ hbase
  unfold join? at h
  dsimp only at h
  split at h
  · obtain ⟨hplain, hrest, hlast⟩ := scheme_rest hsign ‹_›
    exact printable_readWithScheme hbase' hplain hrest hlast h
  · split_ifs at h with hrelative hfile
    · refine printable_readFile (fun b hb => ⟨hbase' b hb, ?_⟩) h
      rw [← Option.some.inj hb, hfile]
      decide
    · exact printable_readRelative hbase (.inl (Bool.eq_false_iff.2 hrelative)) h

theorem Read.printable {u : Url} (h : Read u) : Printable u := by
  induction h with
  | parse hsign h => exact printable_of_parse hsign h
  | join _ hsign h ih => exact printable_of_join ih hsign h

/-! ## Printing -/

theorem plain_render {a : Authority} (huserinfo : Plain a.userinfo) (hhost : Plain a.host) :
    Plain a.render := by
  rw [Authority.render, plain_append, plain_append]
  refine ⟨⟨huserinfo, hhost⟩, ?_⟩
  split
  · rw [plain_cons, Nat.toString_eq_repr, Nat.toList_repr]
    exact ⟨by decide, plain_toDigits (by decide) (by decide) _⟩
  · exact plain_nil

theorem plain_renderPath {u : Url} (h : Plain u.path) : Plain u.renderPath := by
  unfold renderPath
  split
  · rename_i hpath
    rw [hpath] at h
    exact plain_cons.2 ⟨by decide, plain_cons.2 ⟨by decide, h⟩⟩
  · exact h

theorem Printable.plain_renderChars {u : Url} (h : Printable u) (hpath : Plain u.path) :
    Plain u.renderChars := by
  simp only [renderChars, plain_append]
  refine ⟨⟨⟨⟨h.scheme, by decide⟩, ?_⟩, plain_renderPath hpath⟩, ?_⟩
  · split
    · obtain ⟨huserinfo, hhost⟩ := h.authority _ ‹_›
      exact plain_append.2 ⟨by decide, plain_render huserinfo hhost⟩
    · exact plain_nil
  · split
    · exact plain_cons.2 ⟨by decide, h.query _ ‹_›⟩
    · exact plain_nil

theorem OpaquePath.renderChars_eq {u : Url} (h : OpaquePath u) :
    u.renderChars = u.scheme ++ ':' :: (u.path ++ u.query.elim [] ('?' :: ·)) := by
  obtain ⟨hauthority, hhead⟩ : u.authority = none ∧ u.path.head? ≠ some '/' := by
    simpa [Url.isOpaque] using h.isOpaque
  have hpath : u.renderPath = u.path := by
    unfold renderPath
    split
    · rename_i hslashes
      exact absurd (by rw [hslashes]; rfl) hhead
    · rfl
  rw [Url.renderChars, hauthority, hpath]
  cases u.query <;> simp

/-- No number sign is printed, and no character that is not ASCII. -/
theorem Printable.mem_renderChars {u : Url} (h : Printable u) {c : Char} (hc : c ∈ u.renderChars) :
    isPlain c = true ∨ c = ' ' := by
  rcases h.path with hpath | hspaced
  · exact .inl (h.plain_renderChars hpath c hc)
  rw [hspaced.renderChars_eq, List.mem_append, List.mem_cons, List.mem_append] at hc
  rcases hc with hc | rfl | hc | hc
  · exact .inl (h.scheme c hc)
  · exact .inl (by decide)
  · exact hspaced.chars c hc
  · rcases hquery : u.query with _ | q <;> rw [hquery] at hc
    · exact absurd hc List.not_mem_nil
    · exact .inl (plain_cons.2 ⟨by decide, h.query q hquery⟩ c hc)

theorem Printable.head?_renderChars {u : Url} (h : Printable u) {c : Char}
    (hc : c ∈ u.renderChars.head?) : isPlain c = true := by
  rcases h.path with hpath | hspaced
  · exact h.plain_renderChars hpath c (List.mem_of_head? hc)
  have hscheme := h.scheme
  rw [hspaced.renderChars_eq] at hc
  rcases hparts : u.scheme with _ | ⟨d, scheme⟩ <;> rw [hparts] at hc hscheme
  · obtain rfl := Option.some.inj hc
    decide
  · obtain rfl := Option.some.inj hc
    exact hscheme d List.mem_cons_self

theorem Printable.getLast?_renderChars {u : Url} (h : Printable u) {c : Char}
    (hc : c ∈ u.renderChars.getLast?) : isPlain c = true := by
  rcases h.path with hpath | hspaced
  · exact h.plain_renderChars hpath c (List.mem_of_getLast? hc)
  rw [hspaced.renderChars_eq, List.getLast?_append, List.getLast?_cons, Option.some_or] at hc
  obtain rfl := Option.some.inj hc
  rcases hquery : u.query with _ | q
  · rcases hlast : u.path.getLast? with _ | d
    · simp only [Option.elim_none, List.append_nil, hlast, Option.getD_none]
      decide
    · simp only [Option.elim_none, List.append_nil, hlast, Option.getD_some]
      exact hspaced.last hquery d hlast
  · have hplain : Plain ('?' :: q) := plain_cons.2 ⟨by decide, h.query q hquery⟩
    rw [Option.elim_some, List.getLast?_append, List.getLast?_cons, Option.some_or,
      Option.getD_some]
    exact hplain _ (List.mem_of_getLast? List.getLast?_cons)

end JsonTypes.Url
