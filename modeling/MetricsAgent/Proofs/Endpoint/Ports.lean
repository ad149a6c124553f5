import MetricsAgent.Proofs.Endpoint.Parts

/-!
# Ports of URLs

What stands behind the colon of a host need not be a port: a URL is accepted with any text there. The endpoint has
the port that is written exactly if that is a numeral of 16 bits; if there is no such number behind the last colon
either, it has the port of its scheme.
-/

namespace MetricsAgent.Endpoint

variable {url : String} {e : Endpoint} {u : Uri} {secure : Bool}

theorem of_ofUri (h : ofUri u secure = .ok e) :
    e.host = .ofList u.host ∧ e.port = (u.port?.map UInt16.ofNat).getD (defaultPort e.secure) := by
  rw [ofUri] at h
  split at h
  · cases h
  · cases h
    exact ⟨rfl, rfl⟩

theorem exists_uri (h : parse url = .ok e) :
    ∃ u, Uri.parse url = .ok u ∧ e.host = .ofList u.host ∧
      e.port = (u.port?.map UInt16.ofNat).getD (defaultPort e.secure) := by
  rw [parse] at h
  split at h
  · cases h
  · rename_i u hu
    refine ⟨u, hu, ?_⟩
    split at h
    · exact of_ofUri h
    · exact of_ofUri h
    · cases h
    · cases h

/-- What follows the last colon decides. -/
theorem port_of_suffix {last : List Char} (hport : e.port = (u.port?.map UInt16.ofNat).getD (defaultPort e.secure))
    (h : ':' :: last <:+ u.authority) (hlast : ':' ∉ last) :
    (∀ n, Uri.IsPort n last → e.port.toNat = n) ∧ ((∀ n, ¬ Uri.IsPort n last) → e.port = defaultPort e.secure) := by
  rw [Uri.port?_eq_readPort? h hlast] at hport
  refine ⟨fun n hn => ?_, fun hn => ?_⟩
  · rw [hport, Uri.readPort?_eq_some_iff.mpr hn, Option.map_some, Option.getD_some]
    exact UInt16.toNat_ofNat_of_lt' (Nat.lt_succ_of_le hn.1)
  · have hnone : Uri.readPort? last = none :=
      Option.eq_none_iff_forall_ne_some.mpr fun n hread => hn n (Uri.readPort?_eq_some_iff.mp hread)
    rw [hport, hnone, Option.map_none, Option.getD_none]

/-- The port of an accepted URL is the one that is written behind its host if this is a numeral of 16 bits, and
only then. For any other text there the URL is accepted all the same. -/
theorem port_of_colon (url : String) :
    (∀ e, parse url = .ok e → ∃ u, Uri.parse url = .ok u ∧ e.host = .ofList u.host ∧
      ∀ text, Uri.hostAndPort u.authority = u.host ++ ':' :: text →
        ((∃ n, Decimal.IsNumeral n text ∧ e.port.toNat = n) ↔ ∃ n ≤ Uri.maxPort, Decimal.IsNumeral n text) ∧
        ∀ last, ':' :: last <:+ ':' :: text → ':' ∉ last →
          (∀ n, Uri.IsPort n last → e.port.toNat = n) ∧
            ((∀ n, ¬ Uri.IsPort n last) → e.port = defaultPort e.secure)) ∧
    ∀ u : Url, u.IsPlain → u.text = url → ∃ e, parse url = .ok e := by
  refine ⟨fun e h => ?_, fun u hu ht => ⟨_, ht ▸ hu.parse_eq⟩⟩
  obtain ⟨u, hu, hhost, hport⟩ := exists_uri h
  refine ⟨u, hu, hhost, fun text htext => ?_⟩
  have hsuffix {last : List Char} (h : ':' :: last <:+ ':' :: text) : ':' :: last <:+ u.authority := by
    refine h.trans (List.IsSuffix.trans ?_ (Uri.hostAndPort_suffix u.authority))
    exact htext ▸ List.suffix_append ..
  refine ⟨⟨?_, ?_⟩, fun last hlast hcolon => port_of_suffix hport (hsuffix hlast) hcolon⟩
  · rintro ⟨n, hn, rfl⟩
    exact ⟨_, Nat.le_of_lt_succ e.port.toNat_lt, hn⟩
  · rintro ⟨n, hle, hn⟩
    exact ⟨n, hn, (port_of_suffix hport (hsuffix (List.suffix_refl _)) (hn.not_mem rfl)).1 n ⟨hle, .inl hn⟩⟩

/-- A port behind an address in brackets, with a user before it that has a colon as well. -/
theorem port_of_colon_bracketed :
    let url := "https://user:81@[::1]:08443/in"
    let e : Endpoint := ⟨"[::1]", 8443, "/in", true⟩
    parse url = .ok e ∧ ∃ n, Decimal.IsNumeral n "08443".toList ∧ e.port.toNat = n := by
  intro url e
  have he : parse url = .ok e := by decide
  have hu : Uri.parse url = .ok ⟨some .https, "user:81@[::1]:08443".toList, "/in".toList⟩ := by decide
  obtain ⟨u, hu', -, hport⟩ := (port_of_colon url).1 e he
  rw [hu] at hu'
  cases hu'
  exact ⟨he, (hport "08443".toList rfl).1.mpr ⟨8443, by decide, 1, rfl⟩⟩

/-- A number of more than 16 bits and a text that is no number are both replaced by the port of the scheme. -/
theorem written_ports_replaced :
    Decimal.IsNumeral 99999 "99999".toList ∧
    parse "http://h:99999" = .ok ⟨"h", 80, "/", false⟩ ∧
    (∀ n, ¬ Decimal.IsNumeral n "80x".toList) ∧
    parse "https://h:80x" = .ok ⟨"h", 443, "/", true⟩ := by
  refine ⟨⟨0, rfl⟩, by decide, fun n h => ?_, by decide⟩
  exact h.not_mem (c := 'x') rfl (by decide)

end MetricsAgent.Endpoint
