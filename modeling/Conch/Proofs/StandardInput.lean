import Conch.Session.Loop
import Conch.Proofs.FileSpots

/-!
# The shell's standard input, line by line

The shell reads its input one line at a time, and a here-document reads the lines that follow
the line that introduced it.  `Input.lines` cuts an input into its lines the way `takeLine`
takes them, and `Input.dropLines n` is what is left after the first `n` of them; what is left
is cut into the lines that were not taken (`Input.lines_dropLines`).

`World.Streams` is what a world needs for reading to be all that moves the input: the shell's
standard input is the reading end of pipe 0, its standard error writes to pipe 2, and every
open file has a number below the next one to be given.  Then `World.nextLine` takes exactly the
first line of what waits on pipe 0 and leaves the rest (`World.nextLine_eq`).

A change of the world is `World.Calm` when it keeps these streams, leaves the input alone and
only grows the file system.  Reporting an error, opening a file and writing to a regular file
are calm (`World.report_calm`, `World.openPath_calm`, `World.write_empty_file`), and opening a
name that can take a regular file for writing makes an empty one there
(`World.openPath_replacing_of_fileSpot`).
-/

namespace Conch

namespace Input

/-- The lines of an input, each without its newline; a last line needs none. -/
def lines (input : List Char) : List String :=
  match h : takeLine input with
  | none => []
  | some (line, rest) =>
      have : rest.length < input.length := takeLine_shorter h
      line :: lines rest
termination_by input.length

/-- What is left of an input once its first `n` lines are taken. -/
def dropLines : Nat → List Char → List Char
  | 0, input => input
  | n + 1, input =>
      match takeLine input with
      | none => []
      | some (_, rest) => dropLines n rest

theorem takeLine_eq_none_iff {input : List Char} : takeLine input = none ↔ input = [] := by
  cases input with
  | nil => simp [takeLine]
  | cons c cs => simp [takeLine]

@[simp] theorem lines_nil : lines [] = [] := by
  rw [lines]
  simp [takeLine]

theorem lines_of_takeLine {input rest : List Char} {line : String}
    (h : takeLine input = some (line, rest)) : lines input = line :: lines rest := by
  rw [lines]
  split
  · next h' => rw [h] at h'; cases h'
  · next line' rest' h' =>
      rw [h] at h'
      cases h'
      rfl

@[simp] theorem dropLines_zero (input : List Char) : dropLines 0 input = input := rfl

@[simp] theorem dropLines_nil (n : Nat) : dropLines n [] = [] := by
  cases n <;> simp [dropLines, takeLine]

theorem dropLines_succ_of_takeLine {input rest : List Char} {line : String} (n : Nat)
    (h : takeLine input = some (line, rest)) : dropLines (n + 1) input = dropLines n rest := by
  simp [dropLines, h]

/-- Taking lines from an input leaves the lines that were not taken. -/
theorem lines_dropLines (n : Nat) (input : List Char) :
    lines (dropLines n input) = (lines input).drop n := by
  induction n generalizing input with
  | zero => rfl
  | succ n ih =>
      cases h : takeLine input with
      | none =>
          rw [takeLine_eq_none_iff] at h
          subst h
          simp
      | some p =>
          obtain ⟨line, rest⟩ := p
          rw [dropLines_succ_of_takeLine n h, ih, lines_of_takeLine h, List.drop_succ_cons]

theorem dropLines_of_length_le {n : Nat} {input : List Char} (h : (lines input).length ≤ n) :
    dropLines n input = [] := by
  induction n generalizing input with
  | zero =>
      cases hl : takeLine input with
      | none => exact takeLine_eq_none_iff.1 hl
      | some p =>
          obtain ⟨line, rest⟩ := p
          rw [lines_of_takeLine hl] at h
          simp at h
  | succ n ih =>
      cases hl : takeLine input with
      | none => simp [dropLines, hl]
      | some p =>
          obtain ⟨line, rest⟩ := p
          rw [dropLines_succ_of_takeLine n hl]
          rw [lines_of_takeLine hl, List.length_cons] at h
          exact ih (by omega)

end Input

namespace World

/-! ## The shell's streams -/

/-- What waits on the shell's standard input. -/
def input (w : World) : List Char := (w.pipeData 0).toList

/-- The shell reads its input from pipe 0 and writes its errors to pipe 2, and every open file
has a number below the next one to be given. -/
structure Streams (w : World) : Prop where
  input : w.channel? 0 = some ⟨.pipe 0, true, false⟩
  error : w.channel? 2 = some ⟨.pipe 2, false, true⟩
  fresh : ∀ c ∈ w.channels.map Prod.fst, c < w.nextChannel

/-- The shell starts with its streams in place. -/
theorem boot_streams (fs : Fs) (input : Octets) : (boot fs input).Streams where
  input := rfl
  error := rfl
  fresh := by
    intro c hc
    simp only [boot, List.map_cons, List.map_nil, List.mem_cons, List.not_mem_nil,
      or_false] at hc ⊢
    omega

@[simp] theorem pipeData_setPipe_self (w : World) (id : Nat) (data : Octets) :
    (w.setPipe id data).pipeData id = data := by
  simp [setPipe, pipeData]

theorem pipeData_setPipe_of_ne (w : World) {id id' : Nat} (data : Octets) (h : id' ≠ id) :
    (w.setPipe id data).pipeData id' = w.pipeData id' := by
  simp only [setPipe, pipeData, List.lookup_cons, beq_false_of_ne h]
  rw [Fs.lookup_filter_key w.pipes (fun k => k != id) id']
  simp [h]

@[simp] theorem input_setPipe_self (w : World) (data : Octets) :
    (w.setPipe 0 data).input = data.toList := by
  simp [input]

@[simp] theorem channel?_setPipe (w : World) (id : Nat) (data : Octets) (c : Nat) :
    (w.setPipe id data).channel? c = w.channel? c := rfl

@[simp] theorem fs_setPipe (w : World) (id : Nat) (data : Octets) :
    (w.setPipe id data).fs = w.fs := rfl

theorem Streams.setPipe {w : World} (hw : w.Streams) (id : Nat) (data : Octets) :
    (w.setPipe id data).Streams :=
  ⟨hw.input, hw.error, hw.fresh⟩

/-! ## Reading the next line -/

theorem read_input {w : World} (hw : w.Streams) (limit : Option Nat) :
    w.read 0 limit = (.ok (upTo limit (w.pipeData 0)),
      w.setPipe 0 ((w.pipeData 0).drop (upTo limit (w.pipeData 0)).length).copy) := by
  simp [read, hw.input]

theorem consume_input {w : World} (hw : w.Streams) {n : Nat} (hn : n ≠ 0)
    (hle : n ≤ w.input.length) : w.consume 0 n = w.setPipe 0 (String.ofList (w.input.drop n)) := by
  have hn' : (n == 0) = false := by simpa using hn
  have hlen : n ≤ (w.pipeData 0).toList.length := hle
  unfold consume
  simp only [hn', Bool.false_eq_true, if_false, read_input hw]
  apply congrArg (w.setPipe 0)
  apply String.toList_inj.1
  simp [upTo, input, ← String.length_toList, Nat.min_eq_left hlen]

/-- Taking a line and its newline, if any, from the front of a text leaves what follows the
newline. -/
theorem drop_line_taken (l : List Char) (p : Char → Bool) :
    l.drop (if (l.takeWhile p).length < l.length then (l.takeWhile p).length + 1
      else (l.takeWhile p).length) = (l.dropWhile p).drop 1 := by
  induction l with
  | nil => simp
  | cons a l ih =>
      by_cases ha : p a = true
      · simp only [List.takeWhile_cons, List.dropWhile_cons, ha, if_true, List.length_cons]
        rw [← ih]
        split <;> split <;> first | rfl | omega
      · simp [ha]

/-- The shell reads its next line as the first line of what waits on its input, and leaves the
rest there. -/
theorem nextLine_eq {w : World} (hw : w.Streams) :
    w.nextLine = (takeLine w.input).map fun p =>
      (Octets.toText p.1, w.setPipe 0 (String.ofList p.2)) := by
  unfold nextLine readLine available
  rw [read_input hw]
  simp only [upTo]
  by_cases hdata : (w.pipeData 0).isEmpty = true
  · have hnil : w.input = [] := by simpa [input] using hdata
    simp [hdata, hnil, takeLine]
  · obtain ⟨c, cs, hcons⟩ := List.exists_cons_of_ne_nil
      (show w.input ≠ [] from fun h => hdata (by simpa [input] using h))
    have hin : (w.pipeData 0).toList = c :: cs := hcons
    simp only [hdata, Bool.false_eq_true, if_false, Option.map_some, hcons, takeLine,
      ← String.length_toList, hin]
    -- the line goes up to the first newline, and the newline goes with it
    have hpos : (if (List.takeWhile (· != '\n') (c :: cs)).length < (c :: cs).length then
        (List.takeWhile (· != '\n') (c :: cs)).length + 1
        else (List.takeWhile (· != '\n') (c :: cs)).length) ≠ 0 := by
      split
      · omega
      · next hlt =>
          have : (List.takeWhile (· != '\n') (c :: cs)).length ≤ (c :: cs).length :=
            (List.takeWhile_sublist _).length_le
          simp only [List.length_cons] at hlt this ⊢
          omega
    have hle : (if (List.takeWhile (· != '\n') (c :: cs)).length < (c :: cs).length then
        (List.takeWhile (· != '\n') (c :: cs)).length + 1
        else (List.takeWhile (· != '\n') (c :: cs)).length) ≤ w.input.length := by
      have : (List.takeWhile (· != '\n') (c :: cs)).length ≤ (c :: cs).length :=
        (List.takeWhile_sublist _).length_le
      rw [hcons]
      split <;> omega
    rw [consume_input hw hpos hle, hcons, drop_line_taken]

/-! ## Open files -/

@[simp] theorem input_addChannel (w : World) (ch : Channel) : (w.addChannel ch).1.input = w.input :=
  rfl

@[simp] theorem fs_addChannel (w : World) (ch : Channel) : (w.addChannel ch).1.fs = w.fs := rfl

theorem channel?_addChannel_of_ne {w : World} {c : Nat} (h : c ≠ w.nextChannel) (ch : Channel) :
    (w.addChannel ch).1.channel? c = w.channel? c := by
  simp [addChannel, channel?, List.lookup_cons, beq_false_of_ne h]

theorem channel?_addChannel_self (w : World) (ch : Channel) :
    (w.addChannel ch).1.channel? (w.addChannel ch).2 = some ch := by
  simp [addChannel, channel?]

theorem Streams.lt_next {w : World} (hw : w.Streams) {c : Nat} {x : Channel}
    (h : w.channel? c = some x) : c < w.nextChannel := by
  obtain ⟨l₁, l₂, heq, -⟩ := List.lookup_eq_some_iff.1 h
  exact hw.fresh c (List.mem_map.2 ⟨(c, x), by rw [heq]; simp, rfl⟩)

theorem addChannel_number_ne {w : World} (hw : w.Streams) (ch : Channel) :
    (w.addChannel ch).2 ≠ 0 ∧ (w.addChannel ch).2 ≠ 2 := by
  have h0 := hw.lt_next hw.input
  have h2 := hw.lt_next hw.error
  simp only [addChannel]
  omega

theorem Streams.addChannel {w : World} (hw : w.Streams) (ch : Channel) :
    (w.addChannel ch).1.Streams where
  input := by
    rw [channel?_addChannel_of_ne (Nat.ne_of_lt (hw.lt_next hw.input))]
    exact hw.input
  error := by
    rw [channel?_addChannel_of_ne (Nat.ne_of_lt (hw.lt_next hw.error))]
    exact hw.error
  fresh := by
    intro c hc
    simp only [World.addChannel, List.map_cons, List.mem_cons] at hc ⊢
    rcases hc with rfl | hc
    · omega
    · have := hw.fresh c hc
      omega

theorem Streams.withFs {w : World} (hw : w.Streams) (fs : Fs) : ({ w with fs } : World).Streams :=
  ⟨hw.input, hw.error, hw.fresh⟩

theorem channel?_setChannel_of_ne (w : World) {c c' : Nat} (ch : Channel) (h : c' ≠ c) :
    (w.setChannel c ch).channel? c' = w.channel? c' := by
  simp only [setChannel, channel?]
  rw [Fs.lookup_map_replace, if_neg h]

theorem Streams.setChannel {w : World} (hw : w.Streams) {c : Nat} (ch : Channel) (h0 : c ≠ 0)
    (h2 : c ≠ 2) : (w.setChannel c ch).Streams where
  input := (channel?_setChannel_of_ne w ch (Ne.symm h0)).trans hw.input
  error := (channel?_setChannel_of_ne w ch (Ne.symm h2)).trans hw.error
  fresh := by
    intro k hk
    simp only [World.setChannel, List.map_map] at hk
    apply hw.fresh k
    have hfst : (Prod.fst ∘ fun e : Nat × Channel => if e.1 == c then (c, ch) else e) = Prod.fst := by
      funext e
      by_cases he : e.1 = c <;> simp [he]
    rwa [hfst] at hk

/-! ## Changes the input does not see -/

/-- A change of the world that the shell's input does not see: the streams stay in place, what
waits on the input stays, and the file system only grows. -/
structure Calm (w w' : World) : Prop where
  streams : w'.Streams
  input : w'.input = w.input
  grows : w.fs.Grows w'.fs

theorem Calm.refl {w : World} (hw : w.Streams) : w.Calm w := ⟨hw, rfl, Fs.Grows.refl _⟩

theorem Calm.trans {w w' w'' : World} (h : w.Calm w') (h' : w'.Calm w'') : w.Calm w'' :=
  ⟨h'.streams, h'.input.trans h.input, h.grows.trans h'.grows⟩

@[simp] theorem fs_warn (w : World) (text : String) : (w.warn text).fs = w.fs := by
  unfold warn
  split <;> rfl

@[simp] theorem channel?_warn (w : World) (text : String) (c : Nat) :
    (w.warn text).channel? c = w.channel? c := by
  unfold warn
  split <;> rfl

@[simp] theorem input_warn (w : World) (text : String) : (w.warn text).input = w.input := by
  unfold warn
  split
  · rfl
  · simp [input, pipeData_setPipe_of_ne]

@[simp] theorem fs_logWarning (w : World) (message : String) :
    (w.logWarning message).fs = w.fs := fs_warn _ _

@[simp] theorem input_logWarning (w : World) (message : String) :
    (w.logWarning message).input = w.input := input_warn _ _

theorem warn_calm {w : World} (hw : w.Streams) (text : String) : w.Calm (w.warn text) := by
  unfold warn
  split
  · exact .refl hw
  · exact ⟨hw.setPipe 2 _, by simp [input, pipeData_setPipe_of_ne], Fs.Grows.refl _⟩

theorem report_calm {w : World} (hw : w.Streams) (message : String) : w.Calm (w.report message) :=
  warn_calm hw _

/-- Reporting messages one after another does not touch the input. -/
theorem foldl_report_calm {w : World} (hw : w.Streams) (messages : List String) :
    w.Calm (messages.foldl report w) := by
  induction messages generalizing w with
  | nil => exact .refl hw
  | cons m rest ih =>
      have h₁ := report_calm hw m
      exact h₁.trans (ih h₁.streams)

/-! ## Opening files -/

/-- Reopening an open file empties at most the regular file it is on. -/
theorem reopen_eq (w : World) (ch : Channel) (how : Opening) :
    ∃ fs, w.fs.Grows fs ∧ (w.reopen ch how).1 = { w with fs } := by
  unfold reopen
  split
  · next serial offset append =>
      split
      · exact ⟨_, Fs.grows_setContent _ _ _, rfl⟩
      · exact ⟨w.fs, Fs.Grows.refl _, rfl⟩
  · exact ⟨w.fs, Fs.Grows.refl _, rfl⟩

/-- Opening a file adds an open file, after growing the file system at most by a regular file
made, emptied or put in place of a program. -/
theorem openPath_eq_ok {w w' : World} {fds : Fds} {cwd path : Octets} {how : Opening} {c : Nat}
    (h : w.openPath fds cwd path how = .ok (w', c)) :
    ∃ fs ch, w.fs.Grows fs ∧ (w', c) = ({ w with fs } : World).addChannel ch := by
  unfold openPath at h
  -- the name leads to a free place (only when creating) or to an existing entry
  cases hc : how.create
  case' none =>
    simp only [hc] at h
    generalize hs : Except.map Spot.existing (w.fs.resolve cwd path) = spot at h
    have hfresh : ∀ p, spot = .ok (.fresh p) → w.fs.find p = none := by
      rintro p rfl
      cases hr : w.fs.resolve cwd path <;> simp [hr, Except.map] at hs
  case' some m =>
    simp only [hc] at h
    generalize hs : w.fs.locate cwd path = spot at h
    have hfresh : ∀ p, spot = .ok (.fresh p) → w.fs.find p = none := by
      rintro p rfl
      obtain ⟨dir, last, -, hfree, rfl⟩ := Fs.locate_eq_fresh_iff.1 hs
      exact hfree
  all_goals
    clear hs
    cases spot with
    | error e => cases h
    | ok s =>
      cases s with
      | fresh p =>
          dsimp only at h
          split at h
          · cases h
            exact ⟨_, _, Fs.grows_createFile _ _ (by simp [hfresh p rfl]), rfl⟩
          · cases h
      | existing p =>
          dsimp only at h
          split at h
          · cases h
          · next e he =>
              split at h
              · cases h
              · split at h
                · -- a directory, opened for reading only
                  split at h
                  · cases h
                  · cases h
                    exact ⟨w.fs, _, Fs.Grows.refl _, rfl⟩
                · -- a regular file, emptied when written from its start
                  cases h
                  split
                  · exact ⟨_, _, Fs.grows_setContent _ _ _, rfl⟩
                  · exact ⟨w.fs, _, Fs.Grows.refl _, rfl⟩
                · -- a program, replaced by a regular file when written
                  next tool hnode =>
                    split at h
                    · split at h
                      · cases h
                        refine ⟨_, _, Fs.grows_createFile _ _ ?_, rfl⟩
                        intro e' he'
                        rw [he] at he'
                        cases he'
                        simp [hnode, Node.isRegular]
                      · cases h
                    · cases h
                      exact ⟨_, _, Fs.grows_newFile _ _, rfl⟩
                · -- the open file behind a stream device, opened again
                  split at h
                  · next ch hch =>
                      obtain ⟨fs, hg, hre⟩ := reopen_eq w ch how
                      cases h
                      exact ⟨fs, _, hg, by rw [hre]; rfl⟩
                  · cases h
                · cases h
                  exact ⟨w.fs, _, Fs.Grows.refl _, rfl⟩
                · cases h

/-- Opening a file does not touch the input: it keeps the streams, only grows the file system,
and the new open file gets a number that is none of the streams'. -/
theorem openPath_calm {w w' : World} (hw : w.Streams) {fds : Fds} {cwd path : Octets}
    {how : Opening} {c : Nat} (h : w.openPath fds cwd path how = .ok (w', c)) :
    w.Calm w' ∧ c ≠ 0 ∧ c ≠ 2 := by
  obtain ⟨fs, ch, hg, heq⟩ := openPath_eq_ok h
  obtain ⟨rfl, rfl⟩ := Prod.mk.inj heq
  exact ⟨⟨(hw.withFs fs).addChannel ch, rfl, hg⟩, addChannel_number_ne (hw.withFs fs) ch⟩

/-- Opening for writing from its start a name that can take a regular file makes an empty
regular file there, which a lookup of the name then finds. -/
theorem openPath_replacing_of_fileSpot {w : World} {fds : Fds} {cwd path : Octets} (mode : Nat)
    (hs : w.fs.FileSpot cwd path) :
    ∃ fs p n m, w.openPath fds cwd path (.replacing mode) =
        .ok (({ w with fs } : World).addChannel ⟨.file n 0 false, false, true⟩) ∧
      w.fs.Grows fs ∧ fs.resolve cwd path = .ok p ∧ fs.find p = some ⟨.file n, m⟩ ∧
      fs.contentOf n = "" := by
  rcases hs with ⟨p, hl⟩ | ⟨p, n, m, hl, hr, hf⟩
  · -- a free place: the file is made there
    obtain ⟨dir, last, hplace, hfree, rfl⟩ := Fs.locate_eq_fresh_iff.1 hl
    have hg : w.fs.Grows (w.fs.createFile (Path.child dir last) "" mode) :=
      Fs.grows_createFile "" mode (by simp [hfree])
    have hfind : (w.fs.createFile (Path.child dir last) "" mode).find (Path.child dir last) =
        some ⟨.file w.fs.nextSerial, mode⟩ := by
      simp [Fs.find_createFile]
    refine ⟨_, _, w.fs.nextSerial, mode, ?_, hg,
      Fs.resolve_of_place_unlinked (hg.keeps.place hplace) hfind rfl, hfind,
      Fs.contentOf_createFile_self _ _ _ _⟩
    simp [openPath, Opening.replacing, hl, Fs.serialAt, hfind]
  · -- a regular file: it is emptied
    refine ⟨w.fs.setContent n "", p, n, m, ?_, Fs.grows_setContent _ _ _,
      (Fs.grows_setContent _ _ _).keeps.resolve hr, by simpa using hf,
      Fs.contentOf_setContent_self _ _ _⟩
    simp [openPath, Opening.replacing, hl, hf]

theorem overwriteAt_empty (text : Octets) : overwriteAt "" 0 text = text := by
  apply String.toList_inj.1
  simp [overwriteAt]

/-- Writing to an open file at the start of an empty regular file makes the text its content
and changes no entry: the world stays as it was when there is nothing to write, and otherwise
changes by the file's octets and the open file's offset alone. -/
theorem write_empty_file_eq {w : World} {c n : Nat} {r : Bool}
    (hc : w.channel? c = some ⟨.file n 0 false, r, true⟩) (hn : w.fs.contentOf n = "")
    (text : Octets) :
    ∃ w', w.write c text = .ok w' ∧ w'.fs.contentOf n = text ∧
      (∀ q, w'.fs.find q = w.fs.find q) ∧
      (text.isEmpty = true ∧ w' = w ∨
        w' = ({ w with fs := w.fs.setContent n text } : World).setChannel c
          ⟨.file n text.length false, r, true⟩) := by
  by_cases hempty : text.isEmpty = true
  · have htext : text = "" := by simpa using hempty
    exact ⟨w, by simp [write, hempty], by rw [hn, htext], fun _ => rfl, .inl ⟨hempty, rfl⟩⟩
  · refine ⟨({ w with fs := w.fs.setContent n text } : World).setChannel c
        ⟨.file n text.length false, r, true⟩, ?_, Fs.contentOf_setContent_self _ _ _,
      fun _ => rfl, .inr rfl⟩
    simp [write, hempty, hc, hn, overwriteAt_empty]

/-- Writing to an open file at the start of an empty regular file makes the text its content,
and the input does not see it. -/
theorem write_empty_file {w : World} (hw : w.Streams) {c n : Nat} {r : Bool}
    (hc : w.channel? c = some ⟨.file n 0 false, r, true⟩) (hn : w.fs.contentOf n = "")
    (text : Octets) :
    ∃ w', w.write c text = .ok w' ∧ w.Calm w' ∧ w'.fs.contentOf n = text ∧
      ∀ q, w'.fs.find q = w.fs.find q := by
  obtain ⟨w', hwrite, hcontent, hfind, ⟨-, rfl⟩ | rfl⟩ := write_empty_file_eq hc hn text
  · exact ⟨w', hwrite, .refl hw, hcontent, hfind⟩
  · -- the open file is neither the input nor the error stream, which are pipes
    have h0 : c ≠ 0 := by rintro rfl; rw [hw.input] at hc; cases hc
    have h2 : c ≠ 2 := by rintro rfl; rw [hw.error] at hc; cases hc
    exact ⟨_, hwrite, ⟨(hw.withFs _).setChannel _ h0 h2, rfl, Fs.grows_setContent _ _ _⟩,
      hcontent, hfind⟩

end World

end Conch
