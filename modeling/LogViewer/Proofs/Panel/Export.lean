import LogViewer.Proofs.Files.Keeping
import LogViewer.Proofs.LogLine.LineFeeds
import LogViewer.Proofs.Panel.Stored
import LogViewer.Proofs.Panel.Testing
import LogViewer.Proofs.Text.Encoding

/-!
# One line for each exported message

Messages are exported one after the other, each followed by a line feed. As no message of a log has
a line feed in what is printed of it, the file can be cut into the printed messages again, whatever
the lines of the log looked like and whichever messages are visible. But a line may hold surrogates,
and what is printed of its message has no bytes then: exporting fails at the first such message, and
the file ends before it.

## Main definitions

- `Disk.Writable`: a path at which a file can be written

## Main statements

- `Panel.splitOn_exportText`: the cut text
- `Disk.writable_iff`: writing succeeds at such a path, whatever is written
- `Panel.exportLines_append`: the messages before one that has no bytes
- `Panel.export_visible`: the visible messages in a file
-/

namespace LogViewer

open LogViewer.Text

/-! ## §1 The text -/

namespace Panel

theorem exportText_cons (m : Message) (ms : List Message) :
    (exportText (m :: ms)).toList = m.render.toList ++ .char '\n' :: (exportText ms).toList := by
  simp [exportText]

/-- Cut at its line feeds, the text of messages that are each on one line is what is printed of
each, and an empty piece at the end. -/
theorem splitOn_exportText {ms : List Message} (h : ∀ m ∈ ms, m.OnOneLine) :
    (exportText ms).toList.splitOn ('\n' : CodePoint) = ms.map (·.render.toList) ++ [[]] := by
  induction ms with
  | nil => rfl
  | cons m ms ih =>
    have hfirst : (m.render.toList).splitOnP (· == ('\n' : CodePoint)) = [m.render.toList] := by
      apply List.splitOnP_eq_singleton
      intro c hc
      have hne : c ≠ '\n' := by
        rintro rfl
        exact (h m (List.mem_cons_self ..)).not_mem_render hc
      simpa using hne
    rw [List.splitOn] at ih ⊢
    rw [exportText_cons, List.splitOnP_append_cons _ _ (by simp), hfirst,
      ih fun m hm => h m (List.mem_cons_of_mem _ hm), List.map_cons]
    rfl

/-- There are as many line feeds as messages. -/
theorem count_exportText {ms : List Message} (h : ∀ m ∈ ms, m.OnOneLine) :
    (exportText ms).toList.count (.char '\n') = ms.length := by
  induction ms with
  | nil => rfl
  | cons m ms ih =>
    have hfirst := List.count_eq_zero.2 (h m (List.mem_cons_self ..)).not_mem_render
    rw [exportText_cons, List.count_append, List.count_cons_self, hfirst,
      ih fun m hm => h m (List.mem_cons_of_mem _ hm), List.length_cons, Nat.zero_add]

end Panel

/-! ## §2 The file -/

namespace Disk

/-- A file can be written at a path: the path leads to a name in a folder that is there, there is no
folder with that name, and the system does not refuse. -/
structure Writable (d : Disk) (p : Path) : Prop where
  plain : p.fault? = none
  allowed : d.allow .write p = .ok ()
  named : ∃ folder name, d.target p = .ok (.named folder name) ∧ d.entry? folder = some .folder
  free : d.entry? (d.place p) ≠ some .folder

/-- A file can be written at a path of a file exactly if writing succeeds, whatever is written. -/
theorem writable_iff {d : Disk} {p : Path} (hpath : p.fault? = none) (content : ByteArray) :
    d.Writable p ↔ ∃ d', d.write p content = .ok d' := by
  constructor
  · intro h
    obtain ⟨folder, name, htarget, hfolder⟩ := h.named
    have hfree := h.free
    rw [(target_named htarget).2.2.2] at hfree
    unfold write
    rw [h.allowed, htarget]
    simp only [bind, Except.bind, if_neg hfree, create, hfolder, if_true]
    exact ⟨_, rfl⟩
  · rintro ⟨d', hwrite⟩
    obtain ⟨folder, name, htarget, hfree, -⟩ := write_eq_ok hwrite
    unfold write at hwrite
    obtain ⟨⟨⟩, hallowed, hwrite⟩ := bind_eq_ok_iff.1 hwrite
    refine ⟨hpath, hallowed, ⟨folder, name, htarget, ?_⟩, hfree⟩
    -- Nothing is created in a folder that is not there.
    by_contra hnone
    rw [(target_named htarget).2.2.2] at hfree
    simp [htarget, bind, Except.bind, create, hnone, hfree] at hwrite

/-- What was written at a path is found there. -/
theorem found_of_write {d d' : Disk} {p : Path} {content : ByteArray} (h : d.write p content = .ok d') :
    d'.found p = some (.file content) := by
  obtain ⟨folder, name, htarget, -, -⟩ := write_eq_ok h
  -- Writing makes no folders.
  have hwritten : Keeps [d.place p] (fun _ => False) d d' ∧ d'.entry? (d.place p) = some (.file content) :=
    keeps_write h
  obtain ⟨hkeeps, hentry⟩ := hwritten
  rw [found_of_named (hkeeps.target htarget), hkeeps.place, hentry]

end Disk

/-! ## §3 Messages that have bytes -/

/-- What is printed of a message on one line does not depend on whether its number is tested. -/
theorem Message.OnOneLine.render? {m : Message} (h : m.OnOneLine) : m.render? = .ok m.render := by
  unfold Message.render? Message.pidText?
  rw [h.writeInt_pid]
  rfl

namespace Panel

/-- The line of a message has bytes if what is printed of it has. -/
theorem exportLine_of_onOneLine {m : Message} (h : m.OnOneLine) :
    exportLine m = (Utf8.encode (m.render ++ "\n")).mapError .unencodable := by
  unfold exportLine
  rw [h.render?]

theorem encodable_line {m : Message} : (m.render ++ "\n").Encodable ↔ m.render.Encodable := by
  rw [encodable_append]
  exact and_iff_left (encodable_ofString "\n")

/-- Messages that have bytes are written before those that follow them. -/
theorem exportLines_append {front : List Message} (back : List Message)
    (hlines : ∀ m ∈ front, m.OnOneLine) (hall : ∀ m ∈ front, m.render.Encodable) :
    ∃ content, Utf8.encode (exportText front) = .ok content ∧
      exportLines (front ++ back) = (content ++ (exportLines back).1, (exportLines back).2) := by
  induction front with
  | nil => exact ⟨.empty, rfl, by simp⟩
  | cons m front ih =>
    obtain ⟨hline, hlines⟩ := List.forall_mem_cons.1 hlines
    obtain ⟨hm, hall⟩ := List.forall_mem_cons.1 hall
    obtain ⟨content, hcontent, hexport⟩ := ih hlines hall
    have hfirst := Utf8.Encodable.encode (encodable_line.2 hm)
    refine ⟨_, Utf8.encode_append hfirst hcontent, ?_⟩
    rw [List.cons_append, exportLines, exportLine_of_onOneLine hline, hfirst, hexport,
      ByteArray.append_assoc]
    rfl

/-- A message that has no bytes ends the file. -/
theorem exportLines_cons_of_error {m : Message} {back : List Message} {e : Utf8.Unencodable}
    (hline : m.OnOneLine) (he : Utf8.encode (m.render ++ "\n") = .error e) :
    exportLines (m :: back) = (.empty, .error (.unencodable e)) := by
  rw [exportLines, exportLine_of_onOneLine hline, he]
  rfl

/-- All lines are written exactly if every message has bytes. -/
theorem exportLines_ok_iff {ms : List Message} (hlines : ∀ m ∈ ms, m.OnOneLine) :
    (exportLines ms).2 = .ok () ↔ ∀ m ∈ ms, m.render.Encodable := by
  induction ms with
  | nil => simp [exportLines]
  | cons m ms ih =>
    obtain ⟨hline, hlines⟩ := List.forall_mem_cons.1 hlines
    rw [List.forall_mem_cons, ← ih hlines, exportLines, exportLine_of_onOneLine hline]
    cases hfirst : Utf8.encode (m.render ++ "\n") with
    | ok bytes => simp [Except.mapError, encodable_line.1 (Utf8.encode_eq_ok_iff.1 hfirst).1]
    | error e =>
      have hno := Utf8.exists_encode_error_iff.1 ⟨e, hfirst⟩
      rw [encodable_line] at hno
      simp [Except.mapError, hno]

/-- What writing messages to a file comes to, where a file can be written. -/
theorem exportMessages_of_writable {p : Panel} {path : Path} (h : p.disk.Writable path)
    (ms : List Message) :
    ∃ disk, p.exportMessages ms path =
        ({ p with disk }, ((exportLines ms).2.map fun _ => ms.length).mapError .line) ∧
      disk.found path = some (.file (exportLines ms).1) := by
  obtain ⟨disk, hwrite⟩ := (Disk.writable_iff h.plain (exportLines ms).1).1 h
  refine ⟨disk, ?_, Disk.found_of_write hwrite⟩
  simp only [exportMessages, h.plain, hwrite]

/-- Messages are written only where a file can be written. -/
theorem writable_of_exportMessages {p q : Panel} {ms : List Message} {path : Path} {n : Nat}
    (h : p.exportMessages ms path = (q, .ok n)) : p.disk.Writable path := by
  unfold exportMessages at h
  split at h
  · cases h
  · next hpath =>
    dsimp only at h
    split at h
    · cases h
    · next disk hwrite => exact (Disk.writable_iff hpath _).2 ⟨disk, hwrite⟩

/-- Messages are written exactly if a file can be written and every message has bytes. -/
theorem exportMessages_ok_iff {p : Panel} {ms : List Message} {path : Path}
    (hlines : ∀ m ∈ ms, m.OnOneLine) :
    (∃ q n, p.exportMessages ms path = (q, .ok n)) ↔
      p.disk.Writable path ∧ ∀ m ∈ ms, m.render.Encodable := by
  rw [← exportLines_ok_iff hlines]
  constructor
  · rintro ⟨q, n, hexport⟩
    have hwritable := writable_of_exportMessages hexport
    obtain ⟨disk, heq, -⟩ := exportMessages_of_writable hwritable ms
    refine ⟨hwritable, ?_⟩
    rw [hexport] at heq
    cases hdone : (exportLines ms).2 with
    | ok _ => rfl
    | error e =>
      rw [hdone] at heq
      cases heq
  · rintro ⟨hwritable, hdone⟩
    obtain ⟨disk, heq, -⟩ := exportMessages_of_writable hwritable ms
    rw [heq, hdone]
    exact ⟨_, _, rfl⟩

/-! ## §4 Visible messages -/

/-- After whatever has happened to a panel that was started, if its messages come from lines: the
number of every visible message can be printed, and the messages can be written to a file exactly if
one can be written and what is printed of each has no surrogate. The file then has as many line
feeds as the number that is returned, and cut at these it is what is printed of each visible
message, in order, and an empty piece. Otherwise the first message with a surrogate ends the file,
which has the messages before it, and no number is returned. -/
theorem export_visible {p : Panel} (hp : Opens p) {es : List Event}
    (hread : ∀ batch, .act (.perform (.receive batch)) ∈ es → ∀ m ∈ batch, m.IsRead) (path : Path) :
    (∀ m ∈ (p.events es).visible, writeInt m.pid = .ok m.pidText.toList) ∧
    ((∃ q n, (p.events es).exportMessages (p.events es).visible path = (q, .ok n)) ↔
      (p.events es).disk.Writable path ∧ ∀ m ∈ (p.events es).visible, m.render.Encodable) ∧
    (∀ q n, (p.events es).exportMessages (p.events es).visible path = (q, .ok n) →
      ∃ content text, q.disk.found path = some (.file content) ∧ Utf8.decode content = .ok text ∧
        text.toList.splitOn ('\n' : CodePoint)
          = (p.events es).visible.map (·.render.toList) ++ [[]] ∧
        n = (p.events es).visible.length ∧ n = text.toList.count ('\n' : CodePoint)) ∧
    ∀ front m back, (p.events es).visible = front ++ m :: back → (∀ k ∈ front, k.render.Encodable) →
      ¬ m.render.Encodable → (p.events es).disk.Writable path →
      ∃ q e content text, (p.events es).exportMessages (p.events es).visible path
          = (q, .error (.line (.unencodable e))) ∧ Utf8.encode (m.render ++ "\n") = .error e ∧
        q.disk.found path = some (.file content) ∧ Utf8.decode content = .ok text ∧
        text.toList.splitOn ('\n' : CodePoint) = front.map (·.render.toList) ++ [[]] := by
  have hvisible : ∀ m ∈ (p.events es).visible, m.OnOneLine := by
    intro m hm
    rcases mem_messages_events es m (List.mem_of_mem_filter hm) with hbefore | ⟨batch, hbatch, hmem⟩
    · -- Nothing is stored at the start.
      rw [messages_of_opens hp] at hbefore
      cases hbefore
    · exact (hread batch hbatch m hmem).onOneLine
  refine ⟨fun m hm => (hvisible m hm).writeInt_pid, exportMessages_ok_iff hvisible, ?_, ?_⟩
  · -- All visible messages have bytes, so that nothing ends the file before its end.
    intro q n hexport
    obtain ⟨hwritable, hall⟩ := (exportMessages_ok_iff hvisible).1 ⟨q, n, hexport⟩
    obtain ⟨disk, heq, hfound⟩ := exportMessages_of_writable hwritable (p.events es).visible
    obtain ⟨content, hcontent, hlines⟩ := exportLines_append [] hvisible hall
    rw [List.append_nil] at hlines
    rw [hlines] at heq hfound
    rw [hexport] at heq
    cases heq
    rw [exportLines, ByteArray.append_empty] at hfound
    exact ⟨content, _, hfound, Utf8.decode_eq_ok_iff.2 hcontent, splitOn_exportText hvisible, rfl,
      (count_exportText hvisible).symm⟩
  · -- The file is the text of the messages in front, and nothing comes after it.
    intro front m back hsplit hall hno hwritable
    rw [hsplit] at hvisible ⊢
    obtain ⟨hfront, hrest⟩ := List.forall_mem_append.1 hvisible
    obtain ⟨e, he⟩ := Utf8.exists_encode_error_iff.2 (encodable_line.not.2 hno)
    obtain ⟨disk, heq, hfound⟩ := exportMessages_of_writable hwritable (front ++ m :: back)
    obtain ⟨content, hcontent, hlines⟩ := exportLines_append (m :: back) hfront hall
    rw [hlines, exportLines_cons_of_error (hrest m (List.mem_cons_self ..)) he,
      ByteArray.append_empty] at heq hfound
    exact ⟨_, e, content, _, heq, he, hfound, Utf8.decode_eq_ok_iff.2 hcontent,
      splitOn_exportText hfront⟩

/-- A line feed stands between the date and the time of a line, and the message is one line of the
file. -/
theorem export_visible_apart :
    ∃ (m : Message) (p q : Panel) (content : ByteArray) (text : Text),
      readLines .empty ["08-11\n19:11:07.132   495   512 D dtag: first"] = .ok ([m], .empty) ∧
      p = fresh.events [.act (.perform (.receive [m]))] ∧
      p.exportMessages p.visible ⟨1, ["log.txt"]⟩ = (q, .ok 1) ∧
      q.disk.found ⟨1, ["log.txt"]⟩ = some (.file content) ∧ Utf8.decode content = .ok text ∧
      text.toList.splitOn ('\n' : CodePoint)
        = [Text.toList "08-11 19:11:07.132: D/dtag(495): first", []] := by
  let m : Message := ⟨"08-11 19:11:07.132", 495, "?", "dtag", .debug, "first", some 512⟩
  let es : List Event := [.act (.perform (.receive [m]))]
  have hlines : readLines .empty ["08-11\n19:11:07.132   495   512 D dtag: first"] = .ok ([m], .empty) := by
    decide +kernel
  have hread : ∀ batch, .act (.perform (.receive batch)) ∈ es → ∀ m ∈ batch, m.IsRead := by
    intro batch hbatch
    obtain rfl : batch = [m] := by simpa [es] using hbatch
    exact Message.isRead_of_readLines hlines
  have hvisible : (fresh.events es).visible = [m] := by decide +kernel
  have hwritable : (fresh.events es).disk.Writable ⟨1, ["log.txt"]⟩ :=
    ⟨by decide +kernel, rfl, ⟨[], "log.txt", by decide +kernel, rfl⟩, by decide +kernel⟩
  obtain ⟨-, hsucceeds, hfile, -⟩ := export_visible (.start start_fresh) hread ⟨1, ["log.txt"]⟩
  obtain ⟨q, n, hexport⟩ := hsucceeds.2 ⟨hwritable, by rw [hvisible]; decide +kernel⟩
  obtain ⟨content, text, hcontent, htext, hcut, hlength, -⟩ := hfile q n hexport
  rw [hvisible] at hcut hlength
  obtain rfl : n = 1 := hlength
  refine ⟨m, _, q, content, text, hlines, rfl, hexport, hcontent, htext, ?_⟩
  rw [hcut]
  decide +kernel

/-- A line that holds a surrogate gives a message that is visible and cannot be exported: the file
is written and stays empty, and no number is returned. -/
theorem export_surrogate :
    ∃ (m : Message) (p q : Panel) (e : Utf8.Unencodable),
      readLines .empty ["I/a(    1): " ++ .ofList [.ofNat 0xdcff]] = .ok ([m], .empty) ∧
      p = fresh.events [.act (.perform (.receive [m]))] ∧ p.visible = [m] ∧
      p.exportMessages p.visible ⟨1, ["log.txt"]⟩ = (q, .error (.line (.unencodable e))) ∧
      q.disk.found ⟨1, ["log.txt"]⟩ = some (.file .empty) :=
  ⟨⟨"", 1, "?", "a", .info, .ofList [.ofNat 0xdcff], none⟩, _, _, ⟨10, 0xdcff, 0⟩,
    by decide +kernel, rfl, by decide +kernel, rfl, rfl⟩

end Panel

end LogViewer
