import MetricsAgent.Proofs.Daemon.Validity
import MetricsAgent.Proofs.Endpoint.Addresses

/-!
# Upload hosts that are addresses

The upload configuration has no host if uploads are enabled and the machine finds no address for it. A host that is
an address of four bytes is found and kept. An address in hexadecimal digits is looked for with the brackets of its
URL, and is not found: the host is dropped.
-/

namespace MetricsAgent

variable {σ : Type} {m : Machine σ} {t : Settings} {w w' : σ} {e : Endpoint}

/-- Addresses are found as what they are. A text in brackets is neither an address nor the name of a host. -/
structure Machine.KnowsAddresses (m : Machine σ) : Prop where
  dotted : ∀ a b x y port w, m.resolves (dottedAddress a b x y) port w = true
  grouped : ∀ address, IsGroupedAddress address → ∀ port w, m.resolves address port w = true
  bracketed : ∀ address port w, m.resolves (bracketed address) port w = false

namespace UploadConf

/-- The host is that of the URL, unless uploads need its address and the machine finds none. -/
theorem host_of_ofSettings (he : t.endpoint = .ok e) (ht : t.HasRoom) {dir : String}
    (hd : m.writableDir "dataDir" t.dataDir w = (.ok dir, w')) :
    ∃ c, ofSettings m t w = (.ok c, w') ∧
      c.host = if t.isUploading && !m.resolves e.host e.port w then none else some e.host := by
  have hroom : ¬ t.maxDataBytes ≤ leastDataBytes := fun hle => Settings.maxDataBytes_le_iff.mp hle ht
  simp only [ofSettings, he, if_neg hroom, hd]
  exact ⟨_, rfl, rfl⟩

end UploadConf

namespace Bench

/-- A bench that knows all hosts, and finds nothing for a text with a bracket. -/
def networked : Machine Bench := { machine with resolves := fun host _ _ => !host.toList.contains '[' }

theorem knowsAddresses_networked : networked.KnowsAddresses where
  dotted a b x y port w := by
    have h : '[' ∉ (dottedAddress a b x y).toList := not_mem_dottedAddress rfl (by decide) a b x y
    simpa [networked] using h
  grouped address ha port w := by
    have h : '[' ∉ address.toList := fun hc => absurd (ha.isNameChar_or_eq hc) (by decide)
    simpa [networked] using h
  bracketed address port w := by simp [networked, toList_bracketed]

/-- The directory that data are in by default can be made on a new bench. -/
theorem writableDir_networked :
    networked.writableDir "dataDir" Settings.defaults.dataDir {}
      = (.ok "/tmp/mcac/data", (networked.writableDir "dataDir" Settings.defaults.dataDir {}).2) :=
  Prod.ext (by decide) rfl

end Bench

namespace UploadConf

/-- Where insights are to be uploaded, an address of four bytes is kept as the host. One in brackets is dropped,
although the machine finds the address between them; and every such address is the host of a URL. -/
theorem host_of_address (hm : m.KnowsAddresses) :
    (∀ t w dir w' e, t.isUploading = true → t.HasRoom → m.writableDir "dataDir" t.dataDir w = (.ok dir, w') →
      t.endpoint = .ok e → ∃ c, ofSettings m t w = (.ok c, w') ∧
        (∀ a b x y, e.host = dottedAddress a b x y → c.host = some e.host) ∧
        ∀ address, IsGroupedAddress address → e.host = bracketed address →
          m.resolves address e.port w = true ∧ c.host = none) ∧
    ∀ address, IsGroupedAddress address → ∃ url e, Endpoint.parse url = .ok e ∧ e.host = bracketed address := by
  refine ⟨fun t w dir w' e hu ht hd he => ?_, fun address ha => ⟨_, _, ha.parse_url, rfl⟩⟩
  obtain ⟨c, hc, hhost⟩ := host_of_ofSettings he ht hd
  refine ⟨c, hc, fun a b x y h => ?_, fun address ha h => ⟨hm.grouped address ha e.port w, ?_⟩⟩
  · have hfound : m.resolves e.host e.port w = true := h ▸ hm.dotted a b x y e.port w
    simpa [hfound] using hhost
  · have hlost : m.resolves e.host e.port w = false := h ▸ hm.bracketed address e.port w
    simpa [hu, hlost] using hhost

theorem host_of_address_localhost :
    let t : Settings := { Settings.defaults with uploadUrl := "http://127.0.0.1:8080/in", uploadEnabled := true }
    t.isUploading = true ∧ t.HasRoom ∧ t.endpoint = .ok ⟨"127.0.0.1", 8080, "/in", false⟩ ∧
      ∃ c w', ofSettings Bench.networked t {} = (.ok c, w') ∧ c.host = some "127.0.0.1" := by
  intro t
  have he : t.endpoint = .ok ⟨"127.0.0.1", 8080, "/in", false⟩ := by decide
  have hd := Bench.writableDir_networked
  obtain ⟨c, hc, hkept, -⟩ :=
    (host_of_address Bench.knowsAddresses_networked).1 t {} _ _ _ rfl (by decide) hd he
  exact ⟨rfl, by decide, he, c, _, hc, hkept 127 0 0 1 (by decide)⟩

/-- An address that the machine finds is dropped as the host. -/
theorem found_address_dropped :
    let t : Settings := { Settings.defaults with uploadUrl := "http://[::1]:8080/", uploadEnabled := true }
    IsGroupedAddress "::1" ∧ Bench.networked.KnowsAddresses ∧ Bench.networked.resolves "::1" 8080 {} = true ∧
      t.isUploading = true ∧ t.HasRoom ∧
      (Bench.networked.writableDir "dataDir" t.dataDir {}).1 = .ok "/tmp/mcac/data" ∧
      t.endpoint = .ok ⟨bracketed "::1", 8080, "/", false⟩ ∧
      ∃ c w', ofSettings Bench.networked t {} = (.ok c, w') ∧ c.host = none := by
  intro t
  have hgroup : IsAddressGroup "1" := ⟨by decide, by decide, by simp [Unicode.hexDigit?]⟩
  have haddress : IsGroupedAddress (":".intercalate [] ++ "::" ++ ":".intercalate ["1"]) :=
    .short (by decide) (by simp) (List.forall_mem_singleton.mpr hgroup)
  have he : t.endpoint = .ok ⟨bracketed "::1", 8080, "/", false⟩ := by decide
  have hd := Bench.writableDir_networked
  have hlost : Bench.networked.resolves (bracketed "::1") 8080 {} = false := by decide
  obtain ⟨c, hc, hhost⟩ := host_of_ofSettings he (by decide) hd
  refine ⟨haddress, Bench.knowsAddresses_networked, by decide, rfl, by decide, congrArg Prod.fst hd, he, c,
    _, hc, ?_⟩
  simpa [hlost, show t.isUploading = true from rfl] using hhost

end UploadConf

end MetricsAgent
