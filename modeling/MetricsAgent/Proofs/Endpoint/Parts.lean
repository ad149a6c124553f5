import MetricsAgent.Endpoint.Basic
import MetricsAgent.Proofs.Decimal.Numerals
import MetricsAgent.Proofs.Name.Passes

/-!
# URLs read back

A URL is written as its scheme, host, port, path and query, one after the other. Reading it gives an endpoint of
these parts: each of them ends where the next one can begin, since none has a character that would end it.
-/

namespace MetricsAgent

theorem span_append {α : Type} {p : α → Bool} {body rest : List α} (hb : ∀ a ∈ body, p a = true)
    (hr : ∀ a ∈ rest.head?, p a = false) : (body ++ rest).span p = (body, rest) :=
  (List.span_eq_takeWhile_dropWhile ..).trans (takeWhile_dropWhile_append hb hr)

theorem bne_of_not_mem {d : Char} {text : List Char} (h : d ∉ text) : ∀ c ∈ text, (c != d) = true :=
  fun _ hc => bne_iff_ne.mpr (ne_of_mem_of_not_mem hc h)

/-! ## Host and port of an authority -/

namespace Uri

variable {u : Uri} {n : Nat} {text authority last : List Char} {c : Char}

/-- How a port of 16 bits may be written: as a numeral, and with a plus sign before it. -/
def IsPort (n : Nat) (text : List Char) : Prop :=
  n ≤ maxPort ∧ (Decimal.IsNumeral n text ∨ ∃ digits, text = '+' :: digits ∧ Decimal.IsNumeral n digits)

theorem IsPort.not_mem (h : IsPort n text) (hc : c.isDigit = false) (hsign : c ≠ '+') : c ∉ text := by
  obtain ⟨-, hn | ⟨digits, rfl, hn⟩⟩ := h
  · exact hn.not_mem hc
  · exact List.not_mem_cons_of_ne_of_not_mem hsign (hn.not_mem hc)

theorem readPort?_eq_some_iff : readPort? text = some n ↔ IsPort n text := by
  have hread (digits : List Char) :
      (if digits ≠ [] ∧ digits.all Char.isDigit then
        if Decimal.digitsValue 0 digits ≤ maxPort then some (Decimal.digitsValue 0 digits) else none
      else none) = some n ↔ n ≤ maxPort ∧ Decimal.IsNumeral n digits := by
    simp only [Decimal.isNumeral_iff, List.all_eq_true, Option.ite_none_right_eq_some, Option.some.injEq]
    constructor
    · rintro ⟨⟨hne, hd⟩, hle, rfl⟩
      exact ⟨hle, hne, hd, rfl⟩
    · rintro ⟨hle, hne, hd, rfl⟩
      exact ⟨⟨hne, hd⟩, hle, rfl⟩
  by_cases hsign : ∃ digits, text = '+' :: digits
  · obtain ⟨digits, rfl⟩ := hsign
    have hplus : ¬ Decimal.IsNumeral n ('+' :: digits) :=
      fun h => h.not_mem rfl List.mem_cons_self
    have hexists : (∃ rest, '+' :: digits = '+' :: rest ∧ Decimal.IsNumeral n rest) ↔
        Decimal.IsNumeral n digits := by simp
    rw [readPort?, IsPort, or_iff_right hplus, hexists]
    exact hread digits
  · have hplus : ¬ ∃ digits, text = '+' :: digits ∧ Decimal.IsNumeral n digits :=
      fun ⟨digits, h, _⟩ => hsign ⟨digits, h⟩
    rw [readPort?, IsPort, or_iff_left hplus]
    · exact hread text
    · exact fun rest h => hsign ⟨rest, h⟩

theorem hostAndPort_suffix (authority : List Char) : hostAndPort authority <:+ authority := by
  rw [← List.reverse_prefix, hostAndPort, List.reverse_reverse]
  exact List.takeWhile_prefix _

theorem hostAndPort_eq_self (h : '@' ∉ authority) : hostAndPort authority = authority := by
  have hall := bne_of_not_mem (mt List.mem_reverse.mp h)
  rw [hostAndPort, List.takeWhile_eq_self_iff.mpr hall, List.reverse_reverse]

/-- The port is looked for behind the last colon. -/
theorem port?_eq_readPort? (h : ':' :: last <:+ u.authority) (hlast : ':' ∉ last) : u.port? = readPort? last := by
  obtain ⟨before, h⟩ := h
  have hall := bne_of_not_mem (mt List.mem_reverse.mp hlast)
  have htake : u.authority.reverse.takeWhile (· != ':') = last.reverse := by
    rw [← h, List.reverse_append, List.reverse_cons, List.append_assoc, List.takeWhile_append_of_pos hall]
    simp
  rw [port?, if_pos (h ▸ by simp), htake, List.reverse_reverse]

theorem port?_eq_none (h : ':' ∉ u.authority) : u.port? = none := if_neg h

end Uri

/-! ## URLs -/

/-- The parts of a URL without user and fragment, as they are written. -/
structure Url where
  scheme : String
  host : String
  /-- What stands behind the host's colon, if there is one. -/
  port : Option String
  path : String
  query : Option String

namespace Url

/-- Letters, digits, and the marks that stand for nothing but themselves. -/
def IsNameChar (c : Char) : Prop := c.isAlphanum = true ∨ c ∈ "-._~!$&'()*+,;=".toList

/-- The characters of paths, and some that the grammar leaves out but readers take. -/
def IsPathChar (c : Char) : Prop :=
  IsNameChar c ∨ c ∈ ":@%/".toList ∨ c ∈ "\"[\\]^\x7b|\x7d".toList ∨ 128 ≤ c.toNat

/-- The characters of queries, and some that the grammar leaves out but readers take. -/
def IsQueryChar (c : Char) : Prop :=
  IsNameChar c ∨ c ∈ ":@%/?".toList ∨ c ∈ "[\\]^\x60\x7b|\x7d".toList ∨ 128 ≤ c.toNat

instance : DecidablePred IsNameChar := fun _ => inferInstanceAs (Decidable (_ ∨ _))
instance : DecidablePred IsPathChar := fun _ => inferInstanceAs (Decidable (_ ∨ _))
instance : DecidablePred IsQueryChar := fun _ => inferInstanceAs (Decidable (_ ∨ _))

/-- The text of a URL. -/
def text (u : Url) : String :=
  u.scheme ++ "://" ++ u.host ++ u.port.elim "" (":" ++ ·) ++ u.path ++ u.query.elim "" ("?" ++ ·)

/-- Whether a URL has the scheme of encrypted connections, in capitals or small letters. -/
def secure (u : Url) : Bool := u.scheme.toList.map Char.toLower = "https".toList

/-- A URL of one of the two schemes whose host is a name. -/
structure IsPlain (u : Url) : Prop where
  scheme : u.scheme.toList.map Char.toLower = "http".toList ∨ u.scheme.toList.map Char.toLower = "https".toList
  host_ne : u.host ≠ ""
  host : ∀ c ∈ u.host.toList, IsNameChar c
  port : ∀ text ∈ u.port, ∀ c ∈ text.toList, IsNameChar c
  path_start : ∀ c ∈ u.path.toList.head?, c = '/'
  path : ∀ c ∈ u.path.toList, IsPathChar c
  query : ∀ text ∈ u.query, ∀ c ∈ text.toList, IsQueryChar c
  size : u.text.utf8ByteSize ≤ Uri.maxSize

variable {u : Url} {c : Char} {text : List Char}

/-- What stands before the path, but for the scheme. -/
def authority (u : Url) : List Char := u.host.toList ++ u.port.elim [] (':' :: ·.toList)

/-- The path and what follows it. -/
def target (u : Url) : List Char := u.path.toList ++ u.query.elim [] ('?' :: ·.toList)

theorem toList_text (u : Url) :
    u.text.toList = u.scheme.toList ++ (':' :: '/' :: '/' :: (u.authority ++ u.target)) := by
  rw [text, authority, target]
  cases u.port <;> cases u.query <;> simp [String.toList_append]

/-! ## Characters -/

theorem IsNameChar.toNat_lt (h : IsNameChar c) : c.toNat < 128 := by
  rcases h with h | h
  · exact Name.toNat_lt_of_isAlphanum h
  · have hall : ("-._~!$&'()*+,;=".toList.all fun c => c.toNat < 128) = true := by decide
    simpa using List.all_eq_true.mp hall c h

/-- The characters of names go on through an authority, and none of them has a meaning in it. -/
theorem IsNameChar.isAuthorityChar (h : IsNameChar c) :
    Uri.isAuthorityChar c = true ∧ Uri.endsAuthority c = false ∧ c ∉ [':', '[', ']', '@', '%'] :=
  Unicode.forall_ascii
    (P := fun c => IsNameChar c →
      Uri.isAuthorityChar c = true ∧ Uri.endsAuthority c = false ∧ c ∉ [':', '[', ']', '@', '%'])
    (by decide) h.toNat_lt h

theorem ne_of_le_toNat {d : Char} (h : 128 ≤ c.toNat) (hd : d.toNat < 128) : c ≠ d := by
  rintro rfl
  omega

theorem IsPathChar.isPathChar (h : IsPathChar c) : Uri.isPathChar c = true ∧ c ≠ '?' ∧ c ≠ '#' := by
  rcases Nat.lt_or_ge c.toNat 128 with hlow | hhigh
  · exact Unicode.forall_ascii (P := fun c => IsPathChar c → Uri.isPathChar c = true ∧ c ≠ '?' ∧ c ≠ '#')
      (by set_option maxRecDepth 2000 in decide) hlow h
  · refine ⟨?_, ne_of_le_toNat hhigh (by decide), ne_of_le_toNat hhigh (by decide)⟩
    simp [Uri.isPathChar, Nat.lt_of_lt_of_le (by decide : 127 < 128) hhigh]

theorem IsQueryChar.isQueryChar (h : IsQueryChar c) : Uri.isQueryChar c = true ∧ c ≠ '#' := by
  rcases Nat.lt_or_ge c.toNat 128 with hlow | hhigh
  · exact Unicode.forall_ascii (P := fun c => IsQueryChar c → Uri.isQueryChar c = true ∧ c ≠ '#')
      (by set_option maxRecDepth 2000 in decide) hlow h
  · refine ⟨?_, ne_of_le_toNat hhigh (by decide)⟩
    simp [Uri.isQueryChar, Nat.lt_of_lt_of_le (by decide : 127 < 128) hhigh]

/-! ## Scheme -/

theorem dropLowercase?_append {start text : List Char} (h : text.map Char.toLower = start) (tail rest : List Char) :
    Uri.dropLowercase? (start ++ tail) (text ++ rest) = Uri.dropLowercase? tail rest := by
  induction text generalizing start with
  | nil =>
      subst h
      rfl
  | cons c text ih =>
      subst h
      simpa [Uri.dropLowercase?] using ih rfl

theorem IsPlain.splitScheme (h : u.IsPlain) (rest : List Char) :
    Uri.splitScheme (u.scheme.toList ++ ':' :: '/' :: '/' :: rest)
      = .ok (some (if u.secure then .https else .http), rest) := by
  rw [Uri.splitScheme]
  rcases h.scheme with hs | hs
  · have hsecure : u.secure = false := by simp [secure, hs]
    have hhttp : Uri.dropLowercase? ['h', 't', 't', 'p', ':', '/', '/']
        (u.scheme.toList ++ ':' :: '/' :: '/' :: rest) = some rest :=
      dropLowercase?_append hs [':', '/', '/'] (':' :: '/' :: '/' :: rest)
    simp [hhttp, hsecure]
  · have hsecure : u.secure = true := by simp [secure, hs]
    have hhttps : Uri.dropLowercase? ['h', 't', 't', 'p', 's', ':', '/', '/']
        (u.scheme.toList ++ ':' :: '/' :: '/' :: rest) = some rest :=
      dropLowercase?_append hs [':', '/', '/'] (':' :: '/' :: '/' :: rest)
    -- The letter that makes the difference stands where the other scheme has its colon.
    have hs : u.scheme.toList.map Char.toLower = "http".toList ++ ['s'] := hs
    obtain ⟨http, _, hscheme, hh, hs⟩ := List.map_eq_append_iff.mp hs
    obtain ⟨c, tail, rfl, hc, -⟩ := List.map_eq_cons_iff.mp hs
    have hhttp : Uri.dropLowercase? ['h', 't', 't', 'p', ':', '/', '/']
        (u.scheme.toList ++ ':' :: '/' :: '/' :: rest) = none := by
      rw [hscheme, List.append_assoc]
      exact (dropLowercase?_append hh [':', '/', '/'] _).trans (by simp [Uri.dropLowercase?, hc])
    simp [hhttp, hhttps, hsecure]

/-! ## Authority -/

theorem IsNameChar.step_eq (h : IsNameChar c) (s : Uri.AuthorityScan) : s.step c = .ok s := by
  obtain ⟨ha, -, hmarks⟩ := h.isAuthorityChar
  simp only [List.mem_cons, List.not_mem_nil, or_false, not_or] at hmarks
  simp [Uri.AuthorityScan.step, ha, hmarks]

theorem foldlM_step {text : List Char} (h : ∀ c ∈ text, IsNameChar c) (s : Uri.AuthorityScan) :
    text.foldlM Uri.AuthorityScan.step s = .ok s := by
  induction text with
  | nil => rfl
  | cons c text ih =>
      obtain ⟨hc, htext⟩ := List.forall_mem_cons.mp h
      rw [List.foldlM_cons, hc.step_eq]
      exact ih htext

theorem IsPlain.of_mem_authority (h : u.IsPlain) (hc : c ∈ u.authority) : IsNameChar c ∨ c = ':' := by
  rcases List.mem_append.mp hc with hc | hc
  · exact .inl (h.host c hc)
  · cases hport : u.port with
    | none => simp [hport] at hc
    | some text =>
        rw [hport, Option.elim_some, List.mem_cons] at hc
        exact hc.symm.imp_left (h.port text hport c)

theorem IsPlain.not_mem_authority (h : u.IsPlain) (hc : ¬ IsNameChar c) (hcolon : c ≠ ':') : c ∉ u.authority :=
  fun hmem => (h.of_mem_authority hmem).elim hc hcolon

theorem IsPlain.foldlM_authority (h : u.IsPlain) :
    ∃ colons ≤ 1, u.authority.foldlM Uri.AuthorityScan.step {} = .ok { colons } := by
  rw [authority, List.foldlM_append, foldlM_step h.host]
  cases hport : u.port with
  | none => exact ⟨0, Nat.zero_le _, rfl⟩
  | some text => exact ⟨1, Nat.le_refl _, foldlM_step (h.port text hport) _⟩

theorem IsPlain.of_mem_head?_target (h : u.IsPlain) (hc : c ∈ u.target.head?) : c = '/' ∨ c = '?' := by
  cases hp : u.path.toList with
  | nil =>
      cases hq : u.query with
      | none => simp [target, hp, hq] at hc
      | some query => exact .inr (by simpa [target, hp, hq, eq_comm] using hc)
  | cons d path =>
      have hd : d = '/' := h.path_start d (by rw [hp]; rfl)
      exact .inl (by simpa [target, hp, hd, eq_comm] using hc)

theorem IsPlain.splitAuthority (h : u.IsPlain) :
    Uri.splitAuthority (u.authority ++ u.target) = .ok (u.authority, u.target) := by
  have hspan : (u.authority ++ u.target).span (fun c => !Uri.endsAuthority c) = (u.authority, u.target) := by
    refine span_append (fun c hc => ?_) fun c hc => ?_
    · rcases h.of_mem_authority hc with hc | rfl
      · simp [hc.isAuthorityChar.2.1]
      · rfl
    · rcases h.of_mem_head?_target hc with rfl | rfl <;> rfl
  have hlast : u.authority.getLast? ≠ some '@' := fun hlast =>
    h.not_mem_authority (by decide) (by decide) (List.mem_of_getLast? hlast)
  obtain ⟨colons, hle, hfold⟩ := h.foldlM_authority
  rw [Uri.splitAuthority, hspan]
  simp [hfold, hlast, hle, bind, Except.bind]

/-! ## Path and query -/

theorem IsPlain.readPath (h : u.IsPlain) :
    Uri.readPath u.target = .ok (if u.path = "" then ['/'] else u.path.toList) := by
  have hspan : u.target.span (fun c => c != '?' && c != '#')
      = (u.path.toList, u.query.elim [] ('?' :: ·.toList)) := by
    refine span_append (fun c hc => ?_) fun c hc => ?_
    · simp [(h.path c hc).isPathChar.2]
    · cases hq : u.query <;> simp_all [eq_comm]
  have hpath : u.path.toList.all Uri.isPathChar = true :=
    List.all_eq_true.mpr fun c hc => (h.path c hc).isPathChar.1
  rw [Uri.readPath, hspan]
  cases hq : u.query with
  | none => simp [hpath]
  | some query =>
      have hall : query.toList.all Uri.isQueryChar = true :=
        List.all_eq_true.mpr fun c hc => (h.query query hq c hc).isQueryChar.1
      have hfragment : '#' ∉ query.toList := fun hc => (h.query query hq _ hc).isQueryChar.2 rfl
      have htake : query.toList.takeWhile (· != '#') = query.toList :=
        List.takeWhile_eq_self_iff.mpr (bne_of_not_mem hfragment)
      simp [hpath, htake, hall]

/-! ## Whole texts -/

theorem parse_eq_parseFull {text : String} {c d : Char} {rest : List Char} (ht : text.toList = c :: d :: rest)
    (hc : c ≠ '/') (hs : text.utf8ByteSize ≤ Uri.maxSize) : Uri.parse text = Uri.parseFull text.toList := by
  rw [Uri.parse, if_neg (Nat.not_lt.mpr hs), ht]
  split <;> simp_all

theorem IsPlain.exists_scheme (h : u.IsPlain) :
    ∃ c d rest, u.scheme.toList = c :: d :: rest ∧ c ≠ '/' := by
  have hstart : ∃ rest, u.scheme.toList.map Char.toLower = 'h' :: 't' :: rest := by
    rcases h.scheme with hs | hs
    all_goals exact ⟨_, hs⟩
  obtain ⟨rest, hs⟩ := hstart
  obtain ⟨c, _, hscheme, hc, hs⟩ := List.map_eq_cons_iff.mp hs
  obtain ⟨d, rest, rfl, -, -⟩ := List.map_eq_cons_iff.mp hs
  refine ⟨c, d, rest, hscheme, ?_⟩
  rintro rfl
  contradiction

theorem IsPlain.parse_uri (h : u.IsPlain) :
    Uri.parse u.text = .ok ⟨some (if u.secure then .https else .http), u.authority,
      if u.path = "" then ['/'] else u.path.toList⟩ := by
  obtain ⟨c, d, rest, hscheme, hc⟩ := h.exists_scheme
  have htext : u.text.toList = c :: d :: (rest ++ ':' :: '/' :: '/' :: (u.authority ++ u.target)) := by
    rw [toList_text, hscheme]
    rfl
  have hne : u.authority ≠ [] := by simp [authority, h.host_ne]
  rw [parse_eq_parseFull htext hc h.size, toList_text, Uri.parseFull, h.splitScheme]
  simp [bind, Except.bind, pure, Except.pure, h.splitAuthority, h.readPath, hne]

/-! ## Endpoints -/

theorem IsPlain.host_eq (h : u.IsPlain) (scheme : Option Scheme) (path : List Char) :
    Uri.host ⟨scheme, u.authority, path⟩ = u.host.toList := by
  have hat : '@' ∉ u.authority := h.not_mem_authority (by decide) (by decide)
  have hcolon : ':' ∉ u.host.toList := fun hc => absurd (h.host _ hc) (by decide)
  obtain ⟨c, rest, hhost⟩ := List.exists_cons_of_ne_nil (mt String.toList_eq_nil_iff.mp h.host_ne)
  have hc : c ≠ '[' := by
    rintro rfl
    exact absurd (h.host '[' (by simp [hhost])) (by decide)
  rw [Uri.host, Uri.hostAndPort_eq_self hat, authority]
  split
  · rename_i hstart
    rw [hhost, List.cons_append, List.cons.injEq] at hstart
    exact absurd hstart.1 hc
  · rw [List.takeWhile_append_of_pos (bne_of_not_mem hcolon)]
    cases u.port <;> simp

theorem IsPlain.port?_eq (h : u.IsPlain) (scheme : Option Scheme) (path : List Char) :
    Uri.port? ⟨scheme, u.authority, path⟩ = u.port.bind (Uri.readPort? ·.toList) := by
  have hcolon {text : List Char} (ht : ∀ c ∈ text, IsNameChar c) : ':' ∉ text :=
    fun hc => absurd (ht _ hc) (by decide)
  cases hport : u.port with
  | none =>
      refine Uri.port?_eq_none ?_
      simpa [authority, hport] using hcolon h.host
  | some text =>
      refine Uri.port?_eq_readPort? ?_ (hcolon (h.port text hport))
      simp [authority, hport]

/-- A URL of parts is accepted, whatever stands for its port. -/
theorem IsPlain.parse_eq (h : u.IsPlain) :
    Endpoint.parse u.text = .ok {
      host := u.host
      port := ((u.port.bind (Uri.readPort? ·.toList)).map UInt16.ofNat).getD (Endpoint.defaultPort u.secure)
      path := if u.path = "" then "/" else u.path
      secure := u.secure } := by
  have hpath : String.ofList (if u.path = "" then ['/'] else u.path.toList) = if u.path = "" then "/" else u.path := by
    split <;> simp
  have hhost : u.host.toList ≠ [] := mt String.toList_eq_nil_iff.mp h.host_ne
  have hof (scheme : Scheme) :
      Endpoint.ofUri ⟨some scheme, u.authority, if u.path = "" then ['/'] else u.path.toList⟩ u.secure = .ok {
        host := u.host
        port := ((u.port.bind (Uri.readPort? ·.toList)).map UInt16.ofNat).getD (Endpoint.defaultPort u.secure)
        path := if u.path = "" then "/" else u.path
        secure := u.secure } := by
    rw [Endpoint.ofUri, h.host_eq, h.port?_eq, if_neg hhost, hpath, String.ofList_toList]
  rw [Endpoint.parse, h.parse_uri]
  cases hs : u.secure with
  | true => simpa [hs] using hof .https
  | false => simpa [hs] using hof .http

/-- Reading a URL gives back its host, its port or that of its scheme, and its path without the query. -/
theorem parse_text (h : u.IsPlain) {port : Option UInt16}
    (hport : Option.Rel (fun text n => Decimal.IsNumeral n.toNat text.toList) u.port port) :
    Endpoint.parse u.text = .ok {
      host := u.host
      port := port.getD (if u.secure then 443 else 80)
      path := if u.path = "" then "/" else u.path
      secure := u.secure } := by
  rw [h.parse_eq]
  generalize u.port = text? at hport ⊢
  cases hport with
  | none => rfl
  | @some text n hn =>
      have hread : Uri.readPort? text.toList = some n.toNat :=
        Uri.readPort?_eq_some_iff.mpr ⟨Nat.le_of_lt_succ n.toNat_lt, .inl hn⟩
      simp [hread]

/-- Colons, slashes and at signs where they divide nothing. -/
theorem parse_text_marks :
    let u : Url := ⟨"hTTps", "insights.example-1.com", some "08443", "/a:b@c//%41", some "x=/?:@"⟩
    u.text = "hTTps://insights.example-1.com:08443/a:b@c//%41?x=/?:@" ∧
    Endpoint.parse u.text = .ok ⟨"insights.example-1.com", 8443, "/a:b@c//%41", true⟩ := by
  intro u
  have hall {P : Char → Prop} [DecidablePred P] {text : String} (h : text.toList.all (decide <| P ·) = true) :
      ∀ c ∈ text.toList, P c := by
    simpa using h
  have hu : u.IsPlain := {
    scheme := by decide
    host_ne := by decide
    host := hall (by decide)
    port := by rintro _ ⟨⟩; exact hall (by decide)
    path_start := by simp [u]
    path := hall (by decide)
    query := by rintro _ ⟨⟩; exact hall (by decide)
    size := by decide }
  have hport : Option.Rel (fun text (n : UInt16) => Decimal.IsNumeral n.toNat text.toList) u.port (some 8443) :=
    .some ⟨1, rfl⟩
  have hsecure : u.secure = true := by decide
  refine ⟨rfl, ?_⟩
  rw [parse_text hu hport, hsecure]
  rfl

end Url

end MetricsAgent
