import MetricsAgent.Proofs.Conf.ReadBack
import MetricsAgent.Proofs.Daemon.Launches
import MetricsAgent.Proofs.Daemon.Validity
import MetricsAgent.Proofs.Unicode.WellFormed
import MetricsAgent.Telemetry.Basic

/-!
# The socket that the daemon is told

A start writes the daemon's configuration with the socket that it was given, and telemetry connects to the same
socket: cutting off a path twice is cutting it off once. The file is text, though. Its line for the socket has the
bytes of the path between its quotes exactly if these are the bytes of a text, and a path that was cut within a
character is none.
-/

namespace MetricsAgent

/-! ## Paths -/

namespace SocketPath

theorem crop_crop (path : ByteArray) : crop (crop path) = crop path := by
  have h : (crop path).size ≤ maxSize := by
    unfold crop
    split
    · assumption
    · rw [ByteArray.size_extract]
      omega
  rw [crop, if_pos h]

/-- There is no double quote, backslash or line break in the path. -/
def IsPlain (path : ByteArray) : Prop := ∀ c ∈ ['"', '\\', '\n'], UInt8.ofNat c.toNat ∉ path.data.toList

instance (path : ByteArray) : Decidable (IsPlain path) := List.decidableBAll _ _

theorem mem_of_mem_crop {path : ByteArray} {b : UInt8} (h : b ∈ (crop path).data.toList) :
    b ∈ path.data.toList := by
  unfold crop at h
  split at h
  · exact h
  · rw [ByteArray.data_extract, Array.toList_extract] at h
    exact List.mem_of_mem_drop (List.mem_of_mem_take h)

theorem IsPlain.crop {path : ByteArray} (h : IsPlain path) : IsPlain (SocketPath.crop path) :=
  fun c hc hmem => h c hc (mem_of_mem_crop hmem)

end SocketPath

/-! ## The line for the socket -/

namespace DaemonConf

def socketLine : Conf.Line Field := .quoted "  SocketFile" .socket

theorem socketLine_mem_outline : socketLine ∈ outline := by decide

/-- The bytes that the file has between the quotes of its line for the socket. -/
def toldSocket? (conf : DaemonConf) : Option ByteArray :=
  (socketLine.read? (socketLine.fill conf.value).toList).map fun cs => (String.ofList cs).toByteArray

/-- The line for the socket is a line of the file. It has the path as text, whose bytes are those of the path
exactly if the path is the bytes of any text. -/
structure TellsSocket (conf : DaemonConf) (path : ByteArray) : Prop where
  mem_lines : (socketLine.fill conf.value).toList ∈ conf.text.toList.splitOn '\n'
  told_text : conf.toldSocket? = some (SocketPath.text path).toByteArray
  told_iff : conf.toldSocket? = some path ↔ path.IsValidUTF8

theorem tellsSocket {conf : DaemonConf} (h : SocketPath.IsPlain conf.socketPath) :
    conf.TellsSocket conf.socketPath := by
  have hascii : ∀ c ∈ ['"', '\\', '\n'], 0 < c.toNat ∧ c.toNat < 0x80 := by
    rw [List.forall_mem_cons, List.forall_mem_cons, List.forall_mem_singleton]
    decide
  have hplain : ∀ c ∈ ['"', '\\', '\n'], c ∉ (SocketPath.text conf.socketPath).toList := by
    intro c hc hmem
    rw [SocketPath.text, Unicode.textOfBytes, String.toList_ofList] at hmem
    exact h c hc (Unicode.byte_mem_of_mem_decode (hascii c hc).1 (hascii c hc).2 hmem)
  have hl := isPlain_of_mem_outline socketLine socketLine_mem_outline
  have hsealed : Conf.Sealed ((conf.value .socket).toList ++ socketLine.more) := by
    rw [show socketLine.more = [] by decide, List.append_nil]
    exact Conf.sealed_of_not_mem (hplain '"' (by simp)) (hplain '\\' (by simp))
  have htold : conf.toldSocket? = some (SocketPath.text conf.socketPath).toByteArray := by
    rw [toldSocket?, (Conf.Line.read?_fill_eq_some_iff hl rfl (by decide)).mpr hsealed, Option.map_some,
      String.ofList_toList]
    rfl
  refine ⟨Conf.mem_splitOn_fill socketLine_mem_outline ((Conf.Line.newline_not_mem_fill hl).mpr ?_), htold, ?_⟩
  · rintro _ ⟨⟩
    exact hplain '\n' (by simp)
  · rw [htold, Option.some_inj]
    exact Unicode.toByteArray_textOfBytes_iff

end DaemonConf

/-! ## Written files -/

/-- The file that a deed writes, and the text. -/
def Deed.writing? : Deed → Option (String × String)
  | .write path text => some (path, text)
  | _ => none

/-- The deed neither writes a file nor launches a program. -/
def Deed.IsSilent (d : Deed) : Prop := d.writing? = none ∧ d.isLaunch = false

namespace Recorded

variable {σ : Type} {r r' r'' : Recorded σ} {files files' : List (String × String)}

/-- On the way from one record to another these files were written, in this order, and nothing was launched. -/
def Writes (files : List (String × String)) (r r' : Recorded σ) : Prop :=
  ∃ new, r'.deeds = r.deeds ++ new ∧ new.filterMap (·.1.writing?) = files ∧ ∀ x ∈ new, x.1.isLaunch = false

theorem Writes.trans (h : Writes files r r') (h' : Writes files' r' r'') : Writes (files ++ files') r r'' := by
  obtain ⟨new, hn, rfl, hnew⟩ := h
  obtain ⟨new', hn', rfl, hnew'⟩ := h'
  refine ⟨new ++ new', by rw [hn', hn, List.append_assoc], List.filterMap_append, fun x hx => ?_⟩
  rcases List.mem_append.mp hx with hx | hx
  · exact hnew x hx
  · exact hnew' x hx

theorem Writes.exists_mem {path text : String} (h : Writes files r r') (hmem : (path, text) ∈ files) :
    ∃ w, (.write path text, w) ∈ r'.deeds := by
  obtain ⟨new, hn, rfl, -⟩ := h
  obtain ⟨⟨d, w⟩, hx, hd⟩ := List.mem_filterMap.mp hmem
  cases d with
  | write =>
      cases hd
      exact ⟨w, hn ▸ List.mem_append_right _ hx⟩
  | _ => cases hd

theorem Follows.writes (h : Follows (fun d _ => d.IsSilent) r r') : Writes [] r r' := by
  obtain ⟨new, hn, hnew, -⟩ := h.exists_deeds
  exact ⟨new, hn, List.filterMap_eq_nil_iff.mpr fun x hx => (hnew x hx).1, fun x hx => (hnew x hx).2⟩

theorem writes_write (m : Machine σ) (path text : String) (r : Recorded σ) :
    Writes [(path, text)] r (m.recorded.write path text r).2 :=
  ⟨_, rfl, rfl, List.forall_mem_singleton.mpr rfl⟩

end Recorded

/-! ## Starts -/

open Recorded

/-- The file of a daemon's configuration, and its text. -/
def DaemonConf.file (conf : DaemonConf) : String × String := (conf.confFile, conf.text)

/-- The file that a daemon's configuration includes, with the configuration of uploads. -/
def DaemonConf.uploadFile (conf : DaemonConf) (upload : UploadConf) : String × String :=
  (conf.uploadConfFile, upload.text)

/-- Files for a daemon with the socket are written, and the daemon is launched with them or nothing is. -/
inductive Configures {σ : Type} (socket : ByteArray) (r : Recorded σ) : Recorded σ → Prop
  | nothing {r' : Recorded σ} (h : Writes [] r r') : Configures socket r r'
  | one {r' : Recorded σ} {conf : DaemonConf} (hs : conf.socketPath = socket) (h : Writes [conf.file] r r') :
      Configures socket r r'
  | both {r' : Recorded σ} {conf : DaemonConf} (hs : conf.socketPath = socket) (upload : UploadConf)
      (h : Writes [conf.file, conf.uploadFile upload] r r') : Configures socket r r'
  | launched {r' r'' : Recorded σ} {conf : DaemonConf} (hs : conf.socketPath = socket) (upload : UploadConf)
      (h : Writes [conf.file, conf.uploadFile upload] r r') (program : String) (w : σ)
      (h' : Writes [] (r'.done (.launch (Supervisor.launchOf program conf)) w) r'') : Configures socket r r''

section Configures

variable {σ : Type} {socket : ByteArray} {r r' r'' : Recorded σ}

theorem Configures.after (h : Configures socket r' r'') (hw : Writes [] r r') : Configures socket r r'' := by
  cases h with
  | nothing h => exact .nothing (hw.trans h)
  | one hs h => exact .one hs (hw.trans h)
  | both hs upload h => exact .both hs upload (hw.trans h)
  | launched hs upload h program w h' => exact .launched hs upload (hw.trans h) program w h'

/-- What is launched was configured with the socket. -/
theorem Configures.exists_written (h : Configures socket r r')
    (hl : (r'.deeds.drop r.deeds.length).any (·.1.isLaunch) = true) :
    ∃ conf : DaemonConf, conf.socketPath = socket ∧ ∃ w, (.write conf.confFile conf.text, w) ∈ r'.deeds := by
  have hnone {files : List (String × String)} (h : Writes files r r') : False := by
    obtain ⟨new, hn, -, hnew⟩ := h
    rw [hn, List.drop_left] at hl
    obtain ⟨x, hx, hlaunch⟩ := List.any_eq_true.mp hl
    rw [hnew x hx] at hlaunch
    cases hlaunch
  cases h with
  | nothing h => exact (hnone h).elim
  | one hs h => exact (hnone h).elim
  | both hs upload h => exact (hnone h).elim
  | launched hs upload h program w h' =>
      obtain ⟨w', hw⟩ := h.exists_mem (List.mem_cons_self ..)
      obtain ⟨later, hn, -⟩ := h'
      exact ⟨_, hs, w', by rw [hn, deeds_done, List.append_assoc]; exact List.mem_append_left _ hw⟩

end Configures

theorem DaemonConf.of_finish {d : DaemonDraft} {conf : DaemonConf} (h : d.finish = .ok conf) :
    d.socketPath? = some conf.socketPath ∧ d.files? = some (conf.confFile, conf.uploadConfFile) := by
  unfold DaemonDraft.finish at h
  split at h <;> cases h
  exact ⟨by assumption, by assumption⟩

theorem DaemonConf.of_prepare {σ : Type} {m : Machine σ} {root logDir confFile uploadConfFile : String}
    {socket : ByteArray} {identity : Identity} {w w' : σ} {conf : DaemonConf}
    (h : DaemonConf.prepare m root logDir socket confFile uploadConfFile identity w = (.ok conf, w')) :
    conf.socketPath = SocketPath.crop socket ∧ conf.confFile = confFile ∧
      conf.uploadConfFile = uploadConfFile := by
  unfold DaemonConf.prepare at h
  split at h
  · cases h
  · rename_i d hd
    obtain ⟨root, rfl⟩ := DaemonDraft.exists_of_inRoot hd
    split at h
    · cases h
    · rename_i d' w'' hd'
      obtain ⟨dir, rfl⟩ := DaemonDraft.exists_of_loggingTo (congrArg Prod.fst hd')
      obtain ⟨hsocket, hfiles⟩ := DaemonConf.of_finish (Prod.mk.inj h).1
      obtain ⟨hfile, hupload⟩ := Prod.mk.inj (Option.some_inj.mp hfiles)
      exact ⟨(Option.some_inj.mp hsocket).symm, hfile.symm, hupload.symm⟩

namespace Supervisor

variable {σ : Type} (m : Machine σ) (s : Supervisor (Recorded σ))

theorem writes_writeFile (path text : String) (r : Recorded σ) :
    Writes [(path, text)] r (writeFile m.recorded path text r).2 := by
  have h := writes_write m path text r
  unfold writeFile
  split <;> rename_i he <;> rw [he] at h <;> exact h

theorem writeUpload_cases (files : ConfFiles) (t : Settings) (r : Recorded σ) :
    (∃ e r', writeUpload m.recorded files t r = (.error e, r') ∧ Writes [] r r') ∨
      ∃ upload : UploadConf, Writes [(files.upload, upload.text)] r (writeUpload m.recorded files t r).2 := by
  have h : Writes [] r _ := (follows_ofSettings m r (fun _ _ => ⟨rfl, rfl⟩) t).writes
  unfold writeUpload
  split <;> rename_i he <;> rw [he] at h
  · exact .inl ⟨_, _, rfl, h⟩
  · rename_i conf _
    exact .inr ⟨conf, h.trans (writes_writeFile m ..)⟩

theorem writeFiles_cases (files : ConfFiles) (conf : DaemonConf) (t : Settings) (r : Recorded σ) :
    (∃ e r', writeFiles m.recorded files conf t r = (.error e, r') ∧ Writes [(files.daemon, conf.text)] r r') ∨
      ∃ upload : UploadConf, Writes [(files.daemon, conf.text), (files.upload, upload.text)] r
        (writeFiles m.recorded files conf t r).2 := by
  have h := writes_writeFile m files.daemon conf.text r
  unfold writeFiles
  split <;> rename_i he <;> rw [he] at h
  · exact .inl ⟨_, _, rfl, h⟩
  · rename_i r'
    rcases writeUpload_cases m files t r' with ⟨e, r'', hu, hw⟩ | ⟨upload, hw⟩
    · exact .inl ⟨e, r'', hu, h.trans hw⟩
    · exact .inr ⟨upload, h.trans hw⟩

theorem exists_launched (program : String) (conf : DaemonConf) : ∃ w,
    Writes [] (s.machine.done (.launch (launchOf program conf)) w)
      (launch m.recorded program conf s).2.machine := by
  obtain ⟨w, hc⟩ := concluded_launch m s program conf
  have h : Follows (fun d _ => d.IsSilent) _ _ := hc.follows (fun _ _ => ⟨rfl, rfl⟩) fun _ => ⟨rfl, rfl⟩
  exact ⟨w, h.writes⟩

theorem configures_restart {conf : DaemonConf} {files : ConfFiles} (hfile : conf.confFile = files.daemon)
    (hupload : conf.uploadConfFile = files.upload) (t : Settings) :
    Configures conf.socketPath s.machine (restart m.recorded conf files t s).2.machine := by
  have hc : Writes [] s.machine _ :=
    ((cleared_endPrevious m s conf.pidFile).follows fun _ _ => ⟨rfl, rfl⟩).writes
  revert hc
  unfold restart
  generalize endPrevious m.recorded conf.pidFile s = s'
  intro hc
  dsimp only
  split
  · exact .nothing hc
  · rename_i program _
    have hcases := writeFiles_cases m files conf t s'.machine
    rw [← hfile, ← hupload] at hcases
    refine Configures.after ?_ hc
    rcases hcases with ⟨e, r', he, hw⟩ | ⟨upload, hw⟩
    · rw [he]
      exact .one rfl hw
    · split <;> rename_i r' he <;> rw [he] at hw
      · exact .both rfl upload hw
      · obtain ⟨w, hl⟩ := exists_launched m { s' with machine := r' } program conf
        exact .launched rfl upload hw program w hl

theorem configures_tryStart (socket : ByteArray) (t : Settings) :
    Configures (SocketPath.crop socket) s.machine (s.tryStart m.recorded socket t).2.machine := by
  unfold tryStart
  split
  · exact .nothing Follows.refl.writes
  · rename_i root _
    obtain ⟨files?, r, hq, ho⟩ : ∃ files? r, Follows (fun d _ => d.IsSilent) s.machine r ∧ _ :=
      exists_openFiles m s (fun _ _ => ⟨rfl, rfl⟩) fun _ _ => ⟨rfl, rfl⟩
    split <;> rename_i s' he <;> rw [he] at ho <;> cases ho
    · exact .nothing hq.writes
    · rename_i files
      have hp := hq.trans (follows_prepare m r (fun _ _ => ⟨rfl, rfl⟩) root t.logDir socket files.daemon
        files.upload s.supervision.identity)
      split <;> rename_i r' hr <;> rw [hr] at hp
      · exact .nothing hp.writes
      · obtain ⟨hsocket, hfile, hupload⟩ := DaemonConf.of_prepare hr
        have h := configures_restart m { s with files?, machine := r' } hfile hupload t
        rw [hsocket] at h
        exact h.after hp.writes

theorem configures_start (path : ByteArray) (identity : Identity) (t : Settings) :
    let socket := (Setup.ofSocket path identity).socket
    Configures socket s.machine (s.start m.recorded socket t).2.machine := by
  intro socket
  have hcrop : SocketPath.crop socket = socket := SocketPath.crop_crop path
  unfold start
  split
  · exact .nothing Follows.refl.writes
  · have h := configures_tryStart m s socket t
    rwa [hcrop] at h

/-- Let telemetry be set up with any path without quotes, backslashes and line breaks. A start with the socket of that
setup writes files for a daemon with the same socket, if any, and launches no daemon without them. The file tells the
socket that telemetry connects to by its bytes if they are the bytes of a text, and by others if they are not. -/
theorem start_tells_socket {path : ByteArray} (hplain : SocketPath.IsPlain path) (identity : Identity)
    (t : Settings) :
    let socket := (Setup.ofSocket path identity).socket
    Configures socket s.machine (s.start m.recorded socket t).2.machine ∧
      ∀ conf : DaemonConf, conf.socketPath = socket → conf.TellsSocket socket := by
  intro socket
  refine ⟨configures_start m s path identity t, fun conf hconf => ?_⟩
  rw [← hconf]
  refine DaemonConf.tellsSocket ?_
  rw [hconf]
  exact hplain.crop

/-- A daemon is configured with a path of ASCII characters, and is told this path. -/
theorem start_tells_socket_ascii :
    let path := "/tmp/ds.sock".toByteArray
    let s := fresh {} benchWithDaemon
    SocketPath.IsPlain path ∧ ∃ conf : DaemonConf, conf.toldSocket? = some path ∧
      ∃ w, (.write conf.confFile conf.text, w) ∈
        (s.start Bench.machine.recorded path benchSettings).2.machine.deeds := by
  intro path s
  have hpath : (Setup.ofSocket path ⟨"", "", "", ""⟩).socket = path := by decide
  have hplain : SocketPath.IsPlain path := by decide
  obtain ⟨hconfigures, htells⟩ := start_tells_socket Bench.machine s hplain ⟨"", "", "", ""⟩ benchSettings
  rw [hpath] at hconfigures htells
  obtain ⟨conf, hconf, hw⟩ := hconfigures.exists_written (by decide)
  exact ⟨hplain, conf, (htells conf hconf).told_iff.mpr (String.isValidUTF8 _), hw⟩

/-- The limit of paths falls within a character of this one. -/
def longPath : ByteArray :=
  ("/tmp/" ++ String.ofList (List.replicate 97 'a') ++ "é.sock").toByteArray

/-- It is cut off, and the daemon is told another path. -/
theorem told_other_socket :
    ¬ ∀ (path : ByteArray) (identity : Identity) (t : Settings), SocketPath.IsPlain path →
      let s := fresh {} benchWithDaemon
      let socket := (Setup.ofSocket path identity).socket
      ∀ (conf : DaemonConf) (w : Bench),
        (.write conf.confFile conf.text, w) ∈ (s.start Bench.machine.recorded socket t).2.machine.deeds →
        conf.toldSocket? = some socket := by
  intro h
  have hplain : SocketPath.IsPlain longPath := by decide
  have hclaim := h longPath ⟨"", "", "", ""⟩ benchSettings hplain
  have hcut : ¬ (Setup.ofSocket longPath ⟨"", "", "", ""⟩).socket.IsValidUTF8 := by decide
  have hcrop : SocketPath.IsPlain (Setup.ofSocket longPath ⟨"", "", "", ""⟩).socket := hplain.crop
  obtain ⟨conf, hconf, w, hw⟩ := (configures_start Bench.machine (fresh {} benchWithDaemon) longPath
    ⟨"", "", "", ""⟩ benchSettings).exists_written (by decide)
  -- From here on it does not matter which socket it is.
  generalize (Setup.ofSocket longPath ⟨"", "", "", ""⟩).socket = socket at *
  have htells : conf.TellsSocket conf.socketPath := DaemonConf.tellsSocket (by rwa [hconf])
  rw [hconf] at htells
  exact hcut (htells.told_iff.mp (hclaim conf w hw))

end Supervisor

end MetricsAgent
