import Conch.Proofs.Retention
import Conch.Proofs.StandardInput
import Mathlib

/-!
# The history file

A history is saved as its lines, each followed by a newline, and loaded back line by line.

`History.fileLines` splits a text at its newlines.  `History.readLines` reads the same text the
way a reader does that takes one line at a time: up to the next newline, which it drops along
with a carriage return right before it, and at the end whatever is left, if anything.  The two
agree on every text (`History.fileLines_eq_readLines`), so a loaded ring holds the newest
non-empty lines a reader gives that fit in its capacity (`History.ofFile_items`).

Saving is the inverse of loading on rings whose lines are not empty, hold no newline and do not
end in a carriage return, when the capacity loaded with takes them all
(`History.ofFile_render`).  The shell saves by opening the file from its start, so whatever the
file held before is gone (`saveHistory_writes`), and loading it gives the ring back
(`history_file_round_trip`).
-/

namespace ByteArray

theorem toList_loop_eq (bs : ByteArray) (i : Nat) (r : List UInt8) :
    toList.loop bs i r = r.reverse ++ bs.data.toList.drop i := by
  fun_induction toList.loop bs i r with
  | case1 i r h ih =>
      have hi : i < bs.data.toList.length := by simpa using h
      rw [ih, List.drop_eq_getElem_cons (l := bs.data.toList) hi]
      simp [ByteArray.get!, h]
  | case2 i r h =>
      rw [List.drop_eq_nil_of_le (by simpa using Nat.le_of_not_lt h)]
      simp

theorem toList_eq_data_toList (bs : ByteArray) : bs.toList = bs.data.toList := by
  simp [toList, toList_loop_eq]

end ByteArray

namespace Conch

/-! ## Texts read back from their octets -/

namespace Octets

theorem toUInt8_ofNat_toNat (b : UInt8) : (Char.ofNat b.toNat).toNat.toUInt8 = b := by
  have hb := b.toNat_lt
  have hv : Nat.isValidChar b.toNat := by left; omega
  simp only [Char.ofNat, Char.ofNatAux, dif_pos hv]
  simp

theorem bytes_ofBytes (bs : List UInt8) : (ofBytes bs).bytes = bs := by
  simp only [bytes, ofBytes, String.toList_ofList, List.map_map]
  conv => rhs; rw [← List.map_id bs]
  exact List.map_congr_left fun b _ => toUInt8_ofNat_toNat b

theorem toText?_ofText (s : String) : (ofText s).toText? = some s := by
  have harr : ByteArray.mk s.toUTF8.toList.toArray = s.toByteArray := by
    rw [ByteArray.toList_eq_data_toList]
    rfl
  simp only [toText?, ofText, bytes_ofBytes, harr, String.fromUTF8?,
    Option.dite_none_right_eq_some, Option.some.injEq]
  exact ⟨s.isValidUTF8, rfl⟩

end Octets

namespace History

/-! ## Lines as a reader reads them -/

/-- The lines a reader gives that reads its input one line at a time: a newline ends a line and
is dropped, and so is a carriage return right before it; what follows the last newline is one
more line unless it is empty.  `cur` is the part of the line read so far. -/
def readLines (cur : List Char) : List Char → List String
  | [] => if cur.isEmpty then [] else [String.ofList cur]
  | c :: rest =>
      if c = '\n' then String.ofList (dropReturn cur) :: readLines [] rest
      else readLines (cur ++ [c]) rest

/-- A text without a newline is one line, unless it is empty. -/
theorem fileLines_of_no_newline {l : List Char} (h : '\n' ∉ l) :
    fileLines (String.ofList l) = if l.isEmpty then [] else [String.ofList l] := by
  simp [fileLines, List.splitOn_eq_singleton h]

/-- A text that starts with a line ended by a newline has that line first, without a
carriage return before the newline, and then the lines of the rest. -/
theorem fileLines_line_append {l : List Char} (h : '\n' ∉ l) (rest : List Char) :
    fileLines (String.ofList (l ++ '\n' :: rest)) =
      String.ofList (dropReturn l) :: fileLines (String.ofList rest) := by
  -- the rest splits into at least one piece, so the line is never the last piece
  obtain ⟨p, ps, hps⟩ := List.exists_cons_of_ne_nil (List.splitOn_ne_nil '\n' rest)
  simp only [fileLines, String.toList_ofList, List.splitOn_append_cons_self_of_not_mem h, hps]
  rw [List.getLast?_cons_cons]
  split
  · split <;> rfl
  · rfl

/-- The reader, with the part of a line it has read so far, gives the lines of that part
followed by the rest of the input. -/
theorem readLines_eq_fileLines (cur cs : List Char) (h : '\n' ∉ cur) :
    readLines cur cs = fileLines (String.ofList (cur ++ cs)) := by
  induction cs generalizing cur with
  | nil => simp [readLines, fileLines_of_no_newline h]
  | cons c rest ih =>
      by_cases hc : c = '\n'
      · subst hc
        rw [readLines, if_pos rfl, fileLines_line_append h, ih [] (by simp)]
        rfl
      · rw [readLines, if_neg hc, ih (cur ++ [c]) (by simp [h, Ne.symm hc])]
        simp

/-- Splitting a text at its newlines gives the lines a reader gives. -/
theorem fileLines_eq_readLines (text : String) : fileLines text = readLines [] text.toList := by
  rw [readLines_eq_fileLines [] _ (by simp)]
  simp

/-- A loaded ring holds the newest non-empty lines of the file that fit in its capacity,
oldest first. -/
theorem ofFile_items (m : Nat) (text : String) :
    (ofFile m text).items = ((readLines [] text.toList).filter (· ≠ "")).rtake m := by
  have hkeep : (readLines [] text.toList).filter (fun l => !l.isEmpty) =
      (readLines [] text.toList).filter (· ≠ "") :=
    List.filter_congr (fun l _ => by rw [Bool.eq_iff_iff]; simp)
  rw [ofFile_eq_ring, Log.ring_items, loadedLines, fileLines_eq_readLines, hkeep, List.rtake]

/-! ## Saving and loading -/

/-- Lines each followed by a newline split back into the lines, each without a carriage return
at its end. -/
theorem fileLines_join (ls : List String) (h : ∀ l ∈ ls, '\n' ∉ l.toList) :
    fileLines (String.join (ls.map (· ++ "\n"))) =
      ls.map (fun l => String.ofList (dropReturn l.toList)) := by
  induction ls with
  | nil => simpa using fileLines_of_no_newline (l := []) (by simp)
  | cons l rest ih =>
      have hjoin : String.join ((l :: rest).map (· ++ "\n")) =
          String.ofList (l.toList ++ '\n' :: (String.join (rest.map (· ++ "\n"))).toList) := by
        apply String.toList_inj.1
        simp
      rw [hjoin, fileLines_line_append (h l (by simp)), String.ofList_toList,
        ih (fun l' hl' => h l' (by simp [hl']))]
      simp

theorem dropReturn_of_getLast {l : List Char} (h : l.getLast? ≠ some '\r') : dropReturn l = l := by
  simp [dropReturn, h]

/-- The text of a ring loads back as its lines, when none is empty, holds a newline or ends in a
carriage return, and the capacity takes them all. -/
theorem ofFile_render (m : Nat) (h : History)
    (hitems : ∀ l ∈ h.items, l ≠ "" ∧ '\n' ∉ l.toList ∧ l.toList.getLast? ≠ some '\r')
    (hm : h.count ≤ m) : (ofFile m h.render).items = h.items := by
  have hlines : loadedLines h.render = h.items := by
    rw [loadedLines, render, fileLines_join _ (fun l hl => (hitems l hl).2.1)]
    have hsame : h.items.map (fun l => String.ofList (dropReturn l.toList)) = h.items := by
      conv => rhs; rw [← List.map_id h.items]
      exact List.map_congr_left fun l hl => by
        simp [dropReturn_of_getLast (hitems l hl).2.2]
    rw [hsame, List.filter_eq_self]
    intro l hl
    simpa [String.isEmpty_iff] using (hitems l hl).1
  rw [ofFile_eq_ring, Log.ring_items, hlines]
  have : h.items.length - m = 0 := by simp only [count] at hm; omega
  rw [this, List.drop_zero]

end History

/-- A history file holding the UTF-8 form of a text loads as the ring of that text. -/
theorem loadHistory_of_content {fs : Fs} {p : String} {n mode m : Nat} {text : String}
    (hstat : fs.stat "/" (Octets.ofText p) = .ok ⟨.file n, mode⟩)
    (hc : fs.contentOf n = Octets.ofText text) : loadHistory fs p m = History.ofFile m text := by
  simp [loadHistory, readText, hstat, hc, Octets.toText?_ofText]

/-- Saving the history over a name that takes a regular file leaves there a regular file that
holds exactly the text of the history, whatever it held before. -/
theorem saveHistory_writes {sh : Shell} {w : World} {p : String}
    (hp : sh.historyPath = some p) (hs : w.fs.FileSpot "/" (Octets.ofText p)) :
    ∃ q n mode, (saveHistory sh w).fs.resolve "/" (Octets.ofText p) = .ok q ∧
      (saveHistory sh w).fs.find q = some ⟨.file n, mode⟩ ∧
      (saveHistory sh w).fs.contentOf n = Octets.ofText sh.history.render := by
  obtain ⟨fs, q, n, mode, hopen, -, hr, hf, hc⟩ :=
    @World.openPath_replacing_of_fileSpot w standardFds _ _ 0o644 hs
  have hch := World.channel?_addChannel_self ({ w with fs } : World) ⟨.file n 0 false, false, true⟩
  obtain ⟨w₂, hwrite, hcontent, hfind, -⟩ :=
    World.write_empty_file_eq hch (by simpa using hc) (Octets.ofText sh.history.render)
  have hsave : saveHistory sh w = w₂ := by
    simp only [saveHistory, hp, hopen, hwrite]
  have hkeep : fs.Keeps w₂.fs := fun q e he =>
    ⟨e, by rw [hfind]; simpa using he, rfl, rfl⟩
  refine ⟨q, n, mode, ?_, ?_, ?_⟩
  · rw [hsave]
    exact hkeep.resolve hr
  · rw [hsave, hfind]
    simpa using hf
  · rw [hsave, hcontent]

/-- Loading a history file gives the newest non-empty lines of its text that fit in the
capacity, as a reader that drops each newline, and a carriage return right before it, reads
them.  Saving a history whose lines are not empty, hold no newline and do not end in a
carriage return over an existing regular file leaves there exactly the text of the history,
whatever the file held before, and loading it with a capacity that takes all the lines gives
back the lines in order. -/
theorem history_file_round_trip :
    (∀ (fs : Fs) (p : String) (n mode m : Nat) (text : String),
      fs.stat "/" (Octets.ofText p) = .ok ⟨.file n, mode⟩ →
      fs.contentOf n = Octets.ofText text →
      (loadHistory fs p m).items =
        ((History.readLines [] text.toList).filter (· ≠ "")).rtake m) ∧
    (∀ (sh : Shell) (w : World) (p : String) (n₀ mode₀ m : Nat),
      sh.historyPath = some p → w.fs.stat "/" (Octets.ofText p) = .ok ⟨.file n₀, mode₀⟩ →
      (∀ l ∈ sh.history.items, l ≠ "" ∧ '\n' ∉ l.toList ∧ l.toList.getLast? ≠ some '\r') →
      sh.history.count ≤ m →
      (∃ q n mode, (saveHistory sh w).fs.resolve "/" (Octets.ofText p) = .ok q ∧
        (saveHistory sh w).fs.find q = some ⟨.file n, mode⟩ ∧
        (saveHistory sh w).fs.contentOf n = Octets.ofText sh.history.render) ∧
      (loadHistory (saveHistory sh w).fs p m).items = sh.history.items) := by
  refine ⟨fun fs p n mode m text hstat hc => ?_, fun sh w p n₀ mode₀ m hp hs hitems hm => ?_⟩
  · rw [loadHistory_of_content hstat hc, History.ofFile_items]
  · obtain ⟨q, n, mode, hr, hf, hc⟩ := saveHistory_writes hp (Fs.fileSpot_of_stat hs)
    have hstat : (saveHistory sh w).fs.stat "/" (Octets.ofText p) = .ok ⟨.file n, mode⟩ := by
      simp [Fs.stat, hr, hf]
    refine ⟨⟨q, n, mode, hr, hf, hc⟩, ?_⟩
    rw [loadHistory_of_content hstat hc]
    exact History.ofFile_render m sh.history hitems hm

/-- A history file holding `ls`, a carriage return, an empty line and `pwd` loads, with room
for one entry, as `pwd` alone; saving the history `ls`, `pwd` over it and loading it with room
for two gives both back, as `history_file_round_trip` says. -/
theorem history_file_crlf_round_trip :
    let fs : Fs := { entries := [("/", ⟨.directory, 0o755⟩), ("/h", ⟨.file 0, 0o644⟩)],
                     contents := [(0, "ls\r\n\npwd\n")], nextSerial := 1 }
    let sh : Shell := { env := {}, cwd := "/", history := ((History.empty 500).add "ls").add "pwd",
                        historyPath := some "/h", pid := 1 }
    (loadHistory fs "/h" 1).items = ["pwd"] ∧
      (loadHistory (saveHistory sh (World.boot fs "")).fs "/h" 2).items = ["ls", "pwd"] := by
  intro fs sh
  have hstat : fs.stat "/" (Octets.ofText "/h") = .ok ⟨.file 0, 0o644⟩ := by cbv
  have hload := history_file_round_trip.1 fs "/h" 0 0o644 1 "ls\r\n\npwd\n" hstat (by cbv)
  have hsave := (history_file_round_trip.2 sh (World.boot fs "") "/h" 0 0o644 2 rfl hstat
    (by decide) (by decide)).2
  refine ⟨hload.trans (by decide), hsave.trans (by decide)⟩

end Conch
