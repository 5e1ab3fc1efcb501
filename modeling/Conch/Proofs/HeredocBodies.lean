import Conch.Proofs.StandardInput
import Mathlib

/-!
# Here-document bodies

A here-document takes its body from the shell's input: the lines after the one that
introduced it, up to the first line that is exactly its limiter, or to the end of the input.
`Input.bodyLines` is that body, the input's lines read as text, and `Input.afterBody` what is
left of the input once the body and the limiter line are taken: the input's lines are the
body, the limiter line and what is left (`Input.texts_of_mem`), or the body alone when the
limiter never comes (`Input.afterBody_of_not_mem`).  The body reader takes exactly these lines,
in order and each once (`readBody_eq`).

Capturing a here-document needs a place for its file: `Ready` asks that the shell's streams be
in place, that the working directory exist, and that each of the next names `.heredoc_N` be
free or name a regular file.  Then the capture makes the file, writes the body into it, each
line expanded unless the limiter was quoted and ended by a newline, and opens it for the
command to read (`captureHeredoc_of_ready`).  It counts the file and registers its name for
removal whether or not the file can be made (`captureHeredoc_shell`).  A name that leads to a
directory makes the capture fail before it reads anything (`captureHeredoc_of_directory`), so
the body is left for the shell to read as commands (`capture_blocked_by_directory`); a shell
started at a bare root is ready (`ready_at_bare_root`).
-/

namespace Conch

namespace Input

/-- The lines of an input read as text. -/
def texts (input : List Char) : List String := (lines input).map Octets.toText

/-- The body a here-document with limiter `limiter` takes from an input: its lines before the
first one that is exactly the limiter, all of them when none is. -/
def bodyLines (limiter : String) (input : List Char) : List String :=
  (texts input).takeWhile (· != limiter)

/-- What is left of an input once a here-document with limiter `limiter` has taken its body
and its limiter line. -/
def afterBody (limiter : String) (input : List Char) : List Char :=
  dropLines ((bodyLines limiter input).length + 1) input

/-- The text of a here-document body: each line expanded by `expand` and ended by a newline. -/
def bodyText (expand : String → String) (body : List String) : String :=
  String.join (body.map fun line => expand line ++ "\n")

@[simp] theorem bodyText_nil (expand : String → String) : bodyText expand [] = "" := rfl

theorem bodyText_cons (expand : String → String) (line : String) (body : List String) :
    bodyText expand (line :: body) = expand line ++ "\n" ++ bodyText expand body := by
  simp [bodyText]

@[simp] theorem texts_nil : texts [] = [] := by
  simp [texts]

theorem texts_of_takeLine {input rest : List Char} {line : String}
    (h : takeLine input = some (line, rest)) : texts input = Octets.toText line :: texts rest := by
  simp [texts, lines_of_takeLine h]

theorem length_lines_le (input : List Char) : (lines input).length ≤ input.length := by
  fun_induction lines input with
  | case1 input hl => simp
  | case2 input line rest hl hshort ih =>
      rw [List.length_cons]
      omega

theorem bodyLines_of_limiter {input rest : List Char} {line : String} {limiter : String}
    (h : takeLine input = some (line, rest)) (hl : Octets.toText line = limiter) :
    bodyLines limiter input = [] ∧ afterBody limiter input = rest := by
  have hb : bodyLines limiter input = [] := by
    simp [bodyLines, texts_of_takeLine h, hl]
  refine ⟨hb, ?_⟩
  rw [afterBody, hb, List.length_nil, dropLines_succ_of_takeLine 0 h, dropLines_zero]

theorem bodyLines_of_other {input rest : List Char} {line : String} {limiter : String}
    (h : takeLine input = some (line, rest)) (hl : Octets.toText line ≠ limiter) :
    bodyLines limiter input = Octets.toText line :: bodyLines limiter rest ∧
      afterBody limiter input = afterBody limiter rest := by
  have hb : bodyLines limiter input = Octets.toText line :: bodyLines limiter rest := by
    simp [bodyLines, texts_of_takeLine h, hl]
  refine ⟨hb, ?_⟩
  rw [afterBody, afterBody, hb, List.length_cons, dropLines_succ_of_takeLine _ h]

/-- When the limiter line comes, the input's lines are the body, the limiter line, and the
lines left after it; the body holds no limiter line. -/
theorem texts_of_mem {limiter : String} {input : List Char} (h : limiter ∈ texts input) :
    texts input = bodyLines limiter input ++ limiter :: texts (afterBody limiter input) ∧
      limiter ∉ bodyLines limiter input := by
  fun_induction lines input with
  | case1 input hl =>
      rw [takeLine_eq_none_iff] at hl
      subst hl
      simp at h
  | case2 input line rest hl _ ih =>
      rw [texts_of_takeLine hl] at h ⊢
      by_cases hlim : Octets.toText line = limiter
      · obtain ⟨hb, ha⟩ := bodyLines_of_limiter hl hlim
        simp [hb, ha, hlim]
      · -- the line belongs to the body, and the limiter line comes later
        obtain ⟨hb, ha⟩ := bodyLines_of_other hl hlim
        have hrest : limiter ∈ texts rest := by
          rcases List.mem_cons.1 h with h | h
          · exact absurd h.symm hlim
          · exact h
        obtain ⟨hcut, hnot⟩ := ih hrest
        rw [hb, ha, hcut]
        exact ⟨rfl, by simp [Ne.symm hlim, hnot]⟩

/-- When the limiter line never comes, the body is every line left and nothing remains. -/
theorem afterBody_of_not_mem {limiter : String} {input : List Char}
    (h : limiter ∉ texts input) :
    bodyLines limiter input = texts input ∧ afterBody limiter input = [] := by
  fun_induction lines input with
  | case1 input hl =>
      rw [takeLine_eq_none_iff] at hl
      subst hl
      exact ⟨by simp [bodyLines, texts_nil], dropLines_of_length_le (by simp)⟩
  | case2 input line rest hl _ ih =>
      rw [texts_of_takeLine hl] at h ⊢
      have hlim : Octets.toText line ≠ limiter := fun he => h (he ▸ List.mem_cons_self)
      obtain ⟨hb, ha⟩ := bodyLines_of_other hl hlim
      obtain ⟨hb', ha'⟩ := ih (fun hr => h (List.mem_cons_of_mem _ hr))
      rw [hb, ha, hb', ha']
      exact ⟨rfl, rfl⟩

end Input

namespace World

/-- `w'` is `w` with at most what waits in its pipes changed. -/
def Drawn (w w' : World) : Prop := w' = { w with pipes := w'.pipes }

namespace Drawn

variable {w w' w'' : World}

theorem refl (w : World) : w.Drawn w := rfl

theorem trans (h : w.Drawn w') (h' : w'.Drawn w'') : w.Drawn w'' := by
  unfold Drawn at *
  rw [h', h]

theorem setPipe (w : World) (id : Nat) (data : Octets) : w.Drawn (w.setPipe id data) := rfl

theorem fs_eq (h : w.Drawn w') : w'.fs = w.fs := by
  rw [h]

theorem channel?_eq (h : w.Drawn w') (c : Nat) : w'.channel? c = w.channel? c := by
  rw [h]
  rfl

theorem streams (h : w.Drawn w') (hw : w.Streams) : w'.Streams := by
  rw [h]
  exact ⟨hw.input, hw.error, hw.fresh⟩

end Drawn

end World

/-- How the body reader ends when no interrupt comes: at a limiter line if the input has one,
else at the end of the input. -/
def BodyEnd.ofInput (limiter : String) (input : List Char) : BodyEnd :=
  if (Input.texts input).contains limiter then .limiter else .endOfInput

/-- The body reader, given more lines than the input holds, takes the body and the limiter
line and nothing more: it adds the body's lines, each expanded and ended by a newline, to what
it has, leaves the rest of the input, and ends at the limiter line or at the end of the
input. -/
theorem readBody_eq (limiter : String) (expand : String → String) :
    ∀ (fuel : Nat) (acc : String) (w : World), w.Streams →
      (Input.lines w.input).length < fuel →
      ∃ w', readBody limiter expand fuel acc w =
          (acc ++ Input.bodyText expand (Input.bodyLines limiter w.input), w',
            BodyEnd.ofInput limiter w.input) ∧
        w'.input = Input.afterBody limiter w.input ∧ w.Drawn w' := by
  intro fuel
  induction fuel with
  | zero => intro acc w _ hfuel; omega
  | succ fuel ih =>
      intro acc w hw hfuel
      rw [readBody, World.nextLine_eq hw]
      cases hl : takeLine w.input with
      | none =>
          have hnil : w.input = [] := Input.takeLine_eq_none_iff.1 hl
          refine ⟨w, ?_, by simp [hnil, Input.afterBody], .refl w⟩
          simp [hnil, Input.bodyLines, BodyEnd.ofInput]
      | some p =>
          obtain ⟨line, rest⟩ := p
          have hw' := hw.setPipe 0 (String.ofList rest)
          have hin : (w.setPipe 0 (String.ofList rest)).input = rest := by simp
          by_cases hlim : Octets.toText line = limiter
          · -- the limiter line ends the body
            obtain ⟨hb, ha⟩ := Input.bodyLines_of_limiter hl hlim
            refine ⟨w.setPipe 0 (String.ofList rest), ?_, by rw [hin, ha], .setPipe _ _ _⟩
            simp [hlim, hb, Input.texts_of_takeLine hl, BodyEnd.ofInput]
          · -- a body line: the reader goes on with the rest of the input
            obtain ⟨hb, ha⟩ := Input.bodyLines_of_other hl hlim
            have hlen : (Input.lines (w.setPipe 0 (String.ofList rest)).input).length < fuel := by
              rw [hin]
              rw [Input.lines_of_takeLine hl, List.length_cons] at hfuel
              omega
            obtain ⟨w', hrec, hin', hdrawn⟩ := ih _ _ hw' hlen
            refine ⟨w', ?_, by rw [hin', hin, ha], (World.Drawn.setPipe _ _ _).trans hdrawn⟩
            simp only [Option.map_some, beq_iff_eq, hlim, if_false]
            rw [hrec, hin, hb, Input.bodyText_cons, BodyEnd.ofInput, BodyEnd.ofInput,
              Input.texts_of_takeLine hl]
            have hlim' : limiter ≠ Octets.toText line := Ne.symm hlim
            simp [String.append_assoc, hlim']

/-! ## Capturing a here-document -/

/-- The name of the here-document file numbered `n`, made in the working directory `cwd`. -/
def heredocPath (cwd : String) (n : Nat) : Octets :=
  Octets.ofText (Path.join cwd (".heredoc_" ++ toString n))

namespace Shell

/-- The shell after `k` more here-documents: its count moved on by `k`, and the files numbered
from the old count registered for removal, in order. -/
def withHeredocs (sh : Shell) (k : Nat) : Shell :=
  { sh with heredocCount := sh.heredocCount + k,
            heredocFiles := sh.heredocFiles ++
              (List.range k).map fun i => heredocPath sh.cwd (sh.heredocCount + i) }

variable (sh : Shell) (k : Nat)

@[simp] theorem withHeredocs_zero : sh.withHeredocs 0 = sh := by
  simp [withHeredocs]

@[simp] theorem cwd_withHeredocs : (sh.withHeredocs k).cwd = sh.cwd := rfl

@[simp] theorem heredocCount_withHeredocs :
    (sh.withHeredocs k).heredocCount = sh.heredocCount + k := rfl

@[simp] theorem scope_withHeredocs : (sh.withHeredocs k).scope = sh.scope := rfl

@[simp] theorem interrupts_withHeredocs : (sh.withHeredocs k).interrupts = sh.interrupts := rfl

theorem withHeredocs_one :
    sh.withHeredocs 1 =
      { sh with heredocCount := sh.heredocCount + 1,
                heredocFiles := sh.heredocFiles ++ [heredocPath sh.cwd sh.heredocCount] } := by
  simp [withHeredocs]

theorem withHeredocs_add (j : Nat) :
    (sh.withHeredocs j).withHeredocs k = sh.withHeredocs (j + k) := by
  simp [withHeredocs, List.range_add, Nat.add_assoc]

/-- The working directory as the system knows it, when it resolves. -/
theorem physicalCwd_of_resolve {sh : Shell} {fs : Fs} {dir : String}
    (h : fs.resolve "/" (Octets.ofText sh.cwd) = .ok dir) : sh.physicalCwd fs = dir := by
  simp [physicalCwd, h]

end Shell

/-- What capturing the next `m` here-documents needs: the shell's standard streams in place,
the working directory found at `dir`, for each of the next `m` numbers a name that is free
or names a regular file, and no interrupt for any of them. -/
structure Ready (sh : Shell) (w : World) (dir : String) (m : Nat) : Prop where
  streams : w.Streams
  cwd : w.fs.resolve "/" (Octets.ofText sh.cwd) = .ok dir
  spots : ∀ i < m, w.fs.FileSpot dir (heredocPath sh.cwd (sh.heredocCount + i))
  uninterrupted : ∀ i < m, sh.interrupts.lookup (sh.heredocCount + i) = none

namespace Ready

variable {sh : Shell} {w w' : World} {dir : String} {k m n : Nat}

/-- Once `k` of the files are made, the names after them are still ready. -/
theorem skip (h : Ready sh w dir n) (hn : k + m ≤ n) : Ready (sh.withHeredocs k) w dir m where
  streams := h.streams
  cwd := h.cwd
  spots i hi := by
    have hspot := h.spots (k + i) (by omega)
    simpa [Nat.add_assoc] using hspot
  uninterrupted i hi := by
    have hnone := h.uninterrupted (k + i) (by omega)
    simpa [Nat.add_assoc] using hnone

/-- A world that kept its streams and only grew its file system is still ready. -/
theorem grows (h : Ready sh w dir m) (hw : w'.Streams) (hg : w.fs.Grows w'.fs) :
    Ready sh w' dir m :=
  ⟨hw, hg.keeps.resolve h.cwd, fun i hi => (h.spots i hi).grows hg, h.uninterrupted⟩

theorem mono (h : Ready sh w dir n) (hn : m ≤ n) : Ready sh w dir m :=
  ⟨h.streams, h.cwd, fun i hi => h.spots i (by omega), fun i hi => h.uninterrupted i (by omega)⟩

end Ready

theorem World.openPath_reading_of_file {w : World} {fds : Fds} {cwd path p : String}
    {n m : Nat} (hr : w.fs.resolve cwd path = .ok p) (hf : w.fs.find p = some ⟨.file n, m⟩) :
    w.openPath fds cwd path .reading = .ok (w.addChannel ⟨.file n 0 false, true, false⟩) := by
  simp [World.openPath, Opening.reading, hr, hf, Except.map]

/-- The body reader has room for every line the input holds. -/
theorem lines_lt_linesLeft {w : World} (hw : w.Streams) :
    (Input.lines w.input).length < linesLeft w := by
  have hle := Input.length_lines_le w.input
  simp only [World.input, String.length_toList] at hle
  simp only [linesLeft, World.available, World.read_input hw, World.upTo, World.input]
  omega

/-- The reader of a here-document that no interrupt stops may take more lines than the input
holds. -/
theorem Shell.readerFuel_of_none {sh : Shell} {w : World} {n : Nat}
    (h : sh.interrupts.lookup n = none) : sh.readerFuel w n = linesLeft w := by
  simp [Shell.readerFuel, h]

/-- Capturing, once the file is open and the body read to its limiter or to the end of the
input: a warning when the input ended first, then the body written, then the file opened again
for the command. -/
theorem captureHeredoc_of_read {sh : Shell} {w w₁ w₂ : World} {limiter : Word} {sink : Nat}
    {body : String} {ending : BodyEnd}
    (hopen : w.openPath standardFds (sh.physicalCwd w.fs) (heredocPath sh.cwd sh.heredocCount)
      (.replacing 0o600) = .ok (w₁, sink))
    (hread : readBody limiter.text (if limiter.isQuoted then id else sh.scope.expandLine)
      (sh.readerFuel w sh.heredocCount) "" w₁ = (body, w₂, ending))
    (hend : ending ≠ .interrupted) :
    captureHeredoc sh w limiter =
      let w₃ := if ending == .endOfInput then w₂.warn (heredocWarning limiter.text) else w₂
      match w₃.write sink (Octets.ofText body) with
      | .error e => (sh.withHeredocs 1, w₃.report e.withNumber, .error .heredocFailed)
      | .ok w₄ =>
          match w₄.openPath standardFds (sh.physicalCwd w.fs)
              (heredocPath sh.cwd sh.heredocCount) .reading with
          | .ok (w₅, src) => (sh.withHeredocs 1, w₅, .ok src)
          | .error e => (sh.withHeredocs 1, w₄, .error (.heredocFile e)) := by
  -- the shell with the new file counted is in the same place and expands in the same way
  have hcwd : ∀ c files, ({ sh with heredocCount := c, heredocFiles := files } : Shell).physicalCwd
      w.fs = sh.physicalCwd w.fs := fun _ _ => rfl
  have hscope : ∀ c files, ({ sh with heredocCount := c, heredocFiles := files } : Shell).scope =
      sh.scope := fun _ _ => rfl
  unfold captureHeredoc
  simp only [Shell.withHeredocs_one]
  rw [show Octets.ofText (Path.join sh.cwd (".heredoc_" ++ toString sh.heredocCount)) =
    heredocPath sh.cwd sh.heredocCount from rfl, hcwd, hopen]
  dsimp only
  rw [hscope, hread]
  cases ending
  · rfl
  · rfl
  · exact absurd rfl hend

/-- Capturing a here-document when its file can be made: the shell counts the file and
registers it for removal; the file, at the next `.heredoc_N` name, holds the body's lines, each
expanded unless the limiter was quoted and each ended by a newline; the body and the limiter
line are taken from the input and nothing else is; and the command reads the file from its
start. -/
theorem captureHeredoc_of_ready {sh : Shell} {w : World} {dir : String} (limiter : Word)
    (h : Ready sh w dir 1) :
    ∃ w' src p n m, captureHeredoc sh w limiter = (sh.withHeredocs 1, w', .ok src) ∧
      w'.Streams ∧ w.fs.Grows w'.fs ∧ w'.input = Input.afterBody limiter.text w.input ∧
      w'.fs.resolve dir (heredocPath sh.cwd sh.heredocCount) = .ok p ∧
      w'.fs.find p = some ⟨.file n, m⟩ ∧
      w'.fs.contentOf n = Octets.ofText (Input.bodyText
        (if limiter.isQuoted then id else sh.scope.expandLine)
        (Input.bodyLines limiter.text w.input)) ∧
      w'.channel? src = some ⟨.file n 0 false, true, false⟩ := by
  have hspot : w.fs.FileSpot dir (heredocPath sh.cwd sh.heredocCount) := h.spots 0 (by omega)
  obtain ⟨fs, p, n, m, hopen, hg, hres, hfind, hempty⟩ :=
    @World.openPath_replacing_of_fileSpot w standardFds _ _ 0o600 hspot
  have hcwd := Shell.physicalCwd_of_resolve h.cwd
  rw [← hcwd] at hopen
  have hs₀ := h.streams.withFs fs
  have hs₁ := hs₀.addChannel ⟨.file n 0 false, false, true⟩
  have hsink := World.channel?_addChannel_self ({ w with fs } : World) ⟨.file n 0 false, false, true⟩
  have hin₁ := World.input_addChannel ({ w with fs } : World) ⟨.file n 0 false, false, true⟩
  have hfs₁ := World.fs_addChannel ({ w with fs } : World) ⟨.file n 0 false, false, true⟩
  generalize ({ w with fs } : World).addChannel ⟨.file n 0 false, false, true⟩ = opened
    at hopen hs₁ hsink hin₁ hfs₁
  obtain ⟨w₁, sink⟩ := opened
  dsimp only at hs₁ hsink hin₁ hfs₁
  replace hin₁ : w₁.input = w.input := hin₁
  -- no interrupt comes, so the body is read up to its limiter or to the end of the input
  have hlines : (Input.lines w₁.input).length < sh.readerFuel w sh.heredocCount := by
    rw [Shell.readerFuel_of_none (by simpa using h.uninterrupted 0 (by omega)), hin₁]
    exact lines_lt_linesLeft h.streams
  obtain ⟨w₂, hread, hin₂, hdrawn⟩ :=
    readBody_eq limiter.text (if limiter.isQuoted then id else sh.scope.expandLine) _ "" w₁ hs₁
      hlines
  rw [hin₁, String.empty_append] at hread
  rw [hin₁] at hin₂
  have hs₂ := hdrawn.streams hs₁
  have hend : BodyEnd.ofInput limiter.text w.input ≠ .interrupted := by
    unfold BodyEnd.ofInput
    split <;> simp
  rw [captureHeredoc_of_read hopen hread hend]
  obtain ⟨w₃, hw₃, hcalm₃, hfs₃, hch₃⟩ : ∃ w₃,
      (if BodyEnd.ofInput limiter.text w.input == .endOfInput then
        w₂.warn (heredocWarning limiter.text) else w₂) = w₃ ∧
      w₂.Calm w₃ ∧ w₃.fs = w₂.fs ∧ ∀ c, w₃.channel? c = w₂.channel? c := by
    split
    · exact ⟨_, rfl, World.warn_calm hs₂ _, World.fs_warn _ _, World.channel?_warn _ _⟩
    · exact ⟨_, rfl, .refl hs₂, rfl, fun _ => rfl⟩
  dsimp only
  rw [hw₃]
  obtain ⟨w₄, hwrite, hcalm₄, hcontent, hsame⟩ := World.write_empty_file hcalm₃.streams
    (by rw [hch₃, hdrawn.channel?_eq]; exact hsink) (by rw [hfs₃, hdrawn.fs_eq, hfs₁]; exact hempty)
    (Octets.ofText (Input.bodyText (if limiter.isQuoted then id else sh.scope.expandLine)
      (Input.bodyLines limiter.text w.input)))
  rw [hwrite]
  dsimp only
  have hsub : fs.Sub w₄.fs := fun q e he => by rw [hsame, hfs₃, hdrawn.fs_eq, hfs₁]; exact he
  have hres₄ := hsub.keeps.resolve hres
  have hfind₄ : w₄.fs.find p = some ⟨.file n, m⟩ := hsub p _ hfind
  rw [hcwd, @World.openPath_reading_of_file _ standardFds _ _ _ _ _ hres₄ hfind₄]
  refine ⟨_, _, p, n, m, rfl, hcalm₄.streams.addChannel _, ?_, ?_, hres₄, hfind₄, hcontent,
    World.channel?_addChannel_self _ _⟩
  · have h₂ : w₂.fs = fs := by rw [hdrawn.fs_eq, hfs₁]
    rw [← h₂] at hg
    exact hg.trans (hcalm₃.grows.trans hcalm₄.grows)
  · exact hcalm₄.input.trans (hcalm₃.input.trans hin₂)

/-- Capturing always counts the file and registers its name for removal, whether or not the
file can be made. -/
theorem captureHeredoc_shell (sh : Shell) (w : World) (limiter : Word) :
    (captureHeredoc sh w limiter).1 = sh.withHeredocs 1 := by
  rw [Shell.withHeredocs_one]
  unfold captureHeredoc
  dsimp only
  split
  · rfl
  · split
    · rfl
    · split
      · rfl
      · split <;> rfl

/-- A capture whose name leads to a directory fails before it reads anything: the world,
and with it the input, is left as it was. -/
theorem captureHeredoc_of_directory {sh : Shell} {w : World} {p : String} {mode : Nat}
    (limiter : Word)
    (hl : w.fs.locate (sh.physicalCwd w.fs) (heredocPath sh.cwd sh.heredocCount) =
      .ok (.existing p))
    (hd : w.fs.find p = some ⟨.directory, mode⟩) :
    captureHeredoc sh w limiter = (sh.withHeredocs 1, w, .error (.heredocFile .isDirectory)) := by
  unfold captureHeredoc
  dsimp only
  rw [show Octets.ofText (Path.join sh.cwd (".heredoc_" ++ toString sh.heredocCount)) =
    heredocPath sh.cwd sh.heredocCount from rfl]
  have hcwd : ∀ c files, ({ sh with heredocCount := c, heredocFiles := files } : Shell).physicalCwd
      w.fs = sh.physicalCwd w.fs := fun _ _ => rfl
  simp [hcwd, World.openPath, Opening.replacing, hl, hd, Shell.withHeredocs_one]

/-! ## The first here-document of a shell at the root -/

theorem Fs.resolve_root {fs : Fs} {mode : Nat} (hroot : fs.find "/" = some ⟨.directory, mode⟩) :
    fs.resolve "/" (Octets.ofText "/") = .ok "/" := by
  have hone : Octets.ofText "/" = "/" := by cbv
  have hnames : Path.names "/" = [] := by
    decide
  unfold Fs.resolve
  rw [hone, hnames, Fs.walk]
  simp [Fs.start, Fs.isDirectoryAt, hroot, Node.isDirectory]

theorem Fs.place_root {fs : Fs} {mode : Nat} {path last : String}
    (hroot : fs.find "/" = some ⟨.directory, mode⟩) (hnames : Path.names path = [last])
    (hne : path.isEmpty = false) (hslash : path.endsWith "/" = false)
    (hdot : (last == ".") = false) (hdotdot : (last == "..") = false) :
    fs.Place "/" path "/" last :=
  { nonempty := hne
    noSlash := hslash
    last_eq := by rw [hnames]; rfl
    walk := by rw [hnames, List.dropLast_singleton, Fs.walk]; simp [Fs.start]
    directory := by simp [Fs.isDirectoryAt, hroot, Node.isDirectory]
    notDot := hdot
    notDotDot := hdotdot }

/-- The first here-document file of a shell at the root is made in the root. -/
theorem Fs.place_first_heredoc {fs : Fs} {mode : Nat}
    (hroot : fs.find "/" = some ⟨.directory, mode⟩) :
    fs.Place "/" (heredocPath "/" 0) "/" ".heredoc_0" := by
  have hpath : heredocPath "/" 0 = "/.heredoc_0" := by cbv
  have hnames : Path.names "/.heredoc_0" = [".heredoc_0"] := by
    decide
  rw [hpath]
  exact Fs.place_root hroot hnames (by decide) (by decide +kernel) (by decide) (by decide)

theorem Path.child_root_first_heredoc : Path.child "/" ".heredoc_0" = "/.heredoc_0" := by decide

/-- A shell started at the root of a file system that holds only the root directory is ready
for its first here-document, whatever its input. -/
theorem ready_at_bare_root (input : Octets) :
    Ready { env := {}, cwd := "/", history := { capacity := 0 }, historyPath := none, pid := 1 }
      (World.boot { entries := [("/", ⟨.directory, 0o755⟩)] } input) "/" 1 := by
  have hroot : ({ entries := [("/", ⟨.directory, 0o755⟩)] } : Fs).find "/" =
      some ⟨.directory, 0o755⟩ := by decide
  refine ⟨World.boot_streams _ _, Fs.resolve_root hroot, fun i hi => ?_, fun _ _ => rfl⟩
  obtain rfl : i = 0 := by omega
  refine .inl ⟨_, Fs.locate_eq_fresh_iff.2 ⟨"/", ".heredoc_0", Fs.place_first_heredoc hroot, ?_, rfl⟩⟩
  rw [Path.child_root_first_heredoc]
  show ({ entries := [("/", ⟨.directory, 0o755⟩)] } : Fs).find "/.heredoc_0" = none
  decide

/-- Where a directory already has the name of the first here-document file, capturing the
body of `cat << E` fails and takes nothing from the input: the body line `hello` and the
limiter line are left for the shell to read as commands. -/
theorem capture_blocked_by_directory :
    let fs : Fs := { entries := [("/", ⟨.directory, 0o755⟩), ("/.heredoc_0", ⟨.directory, 0o755⟩)] }
    let w := World.boot fs "hello\nE\necho after\n"
    let sh : Shell :=
      { env := {}, cwd := "/", history := { capacity := 0 }, historyPath := none, pid := 1 }
    let limiter : Word :=
      { segments := [⟨.bare, "E"⟩], raw := "E", text := "E", fields := ["E"],
        redirect := some .heredoc }
    captureHeredoc sh w limiter = (sh.withHeredocs 1, w, .error (.heredocFile .isDirectory)) := by
  intro fs w sh limiter
  have hroot : fs.find "/" = some ⟨.directory, 0o755⟩ := by decide
  have hdir : fs.find (Path.child "/" ".heredoc_0") = some ⟨.directory, 0o755⟩ := by
    rw [Path.child_root_first_heredoc]
    decide
  have hcwd : sh.physicalCwd w.fs = "/" := Shell.physicalCwd_of_resolve (Fs.resolve_root hroot)
  have hl : w.fs.locate (sh.physicalCwd w.fs) (heredocPath sh.cwd sh.heredocCount) =
      .ok (.existing (Path.child "/" ".heredoc_0")) := by
    rw [hcwd]
    exact Fs.locate_of_place_unlinked (Fs.place_first_heredoc hroot) hdir rfl
  exact captureHeredoc_of_directory limiter hl hdir

end Conch
