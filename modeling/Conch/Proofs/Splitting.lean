import Conch.Expand.Word

/-!
# Field splitting

`Scope.expandWord` builds the fields of a word with a small state machine, `Fields`.  A
split that a substituted blank asks for is only made when the next character or quote mark
arrives, and a field exists as soon as a character or a quote mark is met, even when it
stays empty.  This module states field splitting declaratively and proves that the builder
computes it, whatever the word.

A word is read as a list of events (`Scope.events`): characters, quote marks (a quoted
piece begins) and split points (a blank that a substitution brought into a bare piece).
`fieldSplit` cuts the events at the split points and keeps, in order, every piece that
holds at least one event, as the characters it holds.

The proof reads the split from left to right (`splitFrom`) and follows the builder one
event at a time: `Fields.outcome_step` is the step, `Fields.finish_run` the whole run.  A
pending split is an ordinary split point that has not been acted on yet.

Main results:
* `fieldSplit_eq_splitFrom`: the declarative split, read from left to right.
* `Fields.finish_run_empty`: the builder, started empty, finishes with `fieldSplit`.
* `Scope.expandLine_eq`: a here-document line expands to the characters of its parts.
* `Scope.expandWord_fields`: the fields of any word are the declarative split of its
  events, the first one with a leading `~` replaced.
-/

namespace Conch

/-- What the field builder meets, in order: a character, a quote mark, or a split point. -/
inductive Event where
  | char (c : Char)
  | quote
  | split
  deriving DecidableEq, Repr

/-- The character an event carries. -/
def Event.char? : Event → Option Char
  | .char c => some c
  | .quote => none
  | .split => none

/-- The events of a part: its characters, where the blanks of a substituted value are split
points when `split` is set. -/
def Part.events (split : Bool) : Part → List Event
  | .literal c => [.char c]
  | .value v =>
      if split then v.toList.map fun c => if Syntax.isBlank c then .split else .char c
      else v.toList.map .char

/-- The characters a part stands for. -/
def Part.chars : Part → List Char
  | .literal c => [c]
  | .value v => v.toList

/-- Parts that are not split are only characters. -/
theorem Part.flatMap_events_false (ps : List Part) :
    ps.flatMap (Part.events false) = (ps.flatMap Part.chars).map .char := by
  rw [List.map_flatMap]
  congr 1
  funext p
  cases p <;> rfl

/-- The declarative field split: cut the events at the split points and keep, in order,
every piece that holds at least one event, as the characters it holds. -/
def fieldSplit (es : List Event) : List String :=
  ((es.splitOn .split).filter (· ≠ [])).map fun piece =>
    String.ofList (piece.filterMap Event.char?)

-- Blanks at either end or in a row make no field; a quote mark alone makes an empty one.
example : fieldSplit [.split, .char 'a', .split, .split, .quote, .char 'b', .split, .quote,
    .split] = ["a", "b", ""] := by decide

/-- The declarative split read from left to right: `cur` holds the characters of the piece
being read, and `started` says that the piece holds at least one event. -/
def splitFrom (started : Bool) (cur : List Char) : List Event → List String
  | [] => if started then [String.ofList cur] else []
  | .split :: es => (if started then [String.ofList cur] else []) ++ splitFrom false [] es
  | .quote :: es => splitFrom true cur es
  | .char c :: es => splitFrom true (cur ++ [c]) es

/-- A piece that holds no split point can be read ahead: cutting it together with what
follows is reading what follows with the piece as the piece already begun. -/
theorem fieldSplit_append (acc es : List Event) (hacc : Event.split ∉ acc) :
    fieldSplit (acc ++ es) = splitFrom (acc ≠ []) (acc.filterMap Event.char?) es := by
  induction es generalizing acc with
  | nil =>
    rw [List.append_nil, fieldSplit, List.splitOn_eq_singleton hacc]
    cases acc <;> simp [splitFrom]
  | cons e es ih =>
    cases e with
    | char c =>
      have hread := ih (acc ++ [.char c]) (by simp [hacc])
      rw [List.append_assoc, List.singleton_append] at hread
      rw [hread]
      simp [splitFrom, Event.char?]
    | quote =>
      have hread := ih (acc ++ [.quote]) (by simp [hacc])
      rw [List.append_assoc, List.singleton_append] at hread
      rw [hread]
      simp only [List.filterMap_append, List.filterMap_cons, Event.char?, List.filterMap_nil]
      simp [splitFrom]
    | split =>
      have hrest := ih [] (by simp)
      simp only [List.nil_append, ne_eq, not_true_eq_false, decide_false, List.filterMap_nil]
        at hrest
      rw [splitFrom, ← hrest, fieldSplit, fieldSplit,
        List.splitOn_append_cons_self_of_not_mem hacc]
      cases acc <;> simp

/-- The declarative split is the split read from left to right from an empty piece. -/
theorem fieldSplit_eq_splitFrom (es : List Event) : fieldSplit es = splitFrom false [] es := by
  simpa using fieldSplit_append [] es (by simp)

/-- Characters alone are never split: they make one field, or none when there are none. -/
theorem fieldSplit_chars (cs : List Char) :
    fieldSplit (cs.map .char) = if cs = [] then [] else [String.ofList cs] := by
  have hsplit : Event.split ∉ cs.map Event.char := by simp
  rw [fieldSplit, List.splitOn_eq_singleton hsplit]
  cases cs <;> simp [List.filterMap_map, Function.comp_def, Event.char?]

/-- Without quote marks every piece read holds a character, so no field is empty. -/
theorem empty_not_mem_splitFrom (es : List Event) (hes : Event.quote ∉ es) :
    ∀ (started : Bool) (cur : List Char), (started = true → cur ≠ []) →
      "" ∉ splitFrom started cur es := by
  induction es with
  | nil =>
    intro started cur hcur
    cases started <;> simp_all [splitFrom]
  | cons e es ih =>
    intro started cur hcur
    have hrest : Event.quote ∉ es := fun h => hes (List.mem_cons_of_mem e h)
    cases e with
    | char c => exact ih hrest true (cur ++ [c]) (by simp)
    | quote => exact absurd List.mem_cons_self hes
    | split =>
      have hnext := ih hrest false [] (by simp)
      cases started <;> simp_all [splitFrom]

/-- Only a quote mark makes an empty field. -/
theorem empty_not_mem_fieldSplit (es : List Event) (hes : Event.quote ∉ es) :
    "" ∉ fieldSplit es := by
  rw [fieldSplit_eq_splitFrom]
  exact empty_not_mem_splitFrom es hes false [] (by simp)

namespace Fields

/-- The builder meeting one event. -/
def step (f : Fields) : Event → Fields
  | .char c => f.pushChar c
  | .quote => f.markQuoted
  | .split => { f with pendingBreak := true }

/-- The builder meeting events in order. -/
def run (f : Fields) (es : List Event) : Fields := es.foldl step f

@[simp] theorem run_nil (f : Fields) : f.run [] = f := rfl

@[simp] theorem run_cons (f : Fields) (e : Event) (es : List Event) :
    f.run (e :: es) = (f.step e).run es := rfl

theorem run_append (f : Fields) (es es' : List Event) :
    f.run (es ++ es') = (f.run es).run es' := List.foldl_append

/-- A field that does not exist yet holds no characters. -/
def Coherent (f : Fields) : Prop := f.started = false → f.current = ""

theorem coherent_step (f : Fields) (hf : f.Coherent) (e : Event) : (f.step e).Coherent := by
  cases e with
  | split => exact hf
  | _ => simp [Coherent, step, pushChar, markQuoted]

/-- The fields that a builder state stands for, followed by the events still to come: the
finished fields, then the split read on from the field being built, where a pending split
is a split point not acted on yet. -/
def outcome (f : Fields) (es : List Event) : List String :=
  f.done.reverse ++
    splitFrom f.started f.current.toList ((if f.pendingBreak then [.split] else []) ++ es)

theorem finish_eq_outcome (f : Fields) : f.finish = f.outcome [] := by
  cases f with
  | mk done current started pendingBreak =>
    cases started <;> cases pendingBreak <;> simp [finish, outcome, splitFrom]

/-- One event moves the builder to a state that stands for the same fields. -/
theorem outcome_step (f : Fields) (hf : f.Coherent) (e : Event) (es : List Event) :
    (f.step e).outcome es = f.outcome (e :: es) := by
  cases f with
  | mk done current started pendingBreak =>
    -- a field not begun is empty, so starting it with an event is reading that event
    cases started <;> cases pendingBreak <;> cases e <;>
      simp_all [Coherent, step, pushChar, markQuoted, flushBreak, outcome, splitFrom]

/-- A whole run from a coherent state finishes with the fields the state stands for. -/
theorem finish_run (f : Fields) (hf : f.Coherent) (es : List Event) :
    (f.run es).finish = f.outcome es := by
  induction es generalizing f with
  | nil => exact finish_eq_outcome f
  | cons e es ih =>
    rw [run_cons, ih (f.step e) (coherent_step f hf e), outcome_step f hf]

/-- The builder, started empty and fed a word's events, finishes with their declarative
split. -/
theorem finish_run_empty (es : List Event) : (({} : Fields).run es).finish = fieldSplit es := by
  rw [finish_run {} (fun _ => rfl), fieldSplit_eq_splitFrom]
  simp [outcome]

/-- Without a pending split, a split made due first is no change. -/
theorem flushBreak_of_pendingBreak_eq_false (f : Fields) (hf : f.pendingBreak = false) :
    f.flushBreak = f := by
  cases f
  simp_all [flushBreak]

/-- Characters fed one by one extend the field being built, after the split that is due. -/
theorem run_chars (c : Char) (cs : List Char) : ∀ f : Fields,
    f.run ((c :: cs).map .char) =
      { f.flushBreak with current := f.flushBreak.current ++ String.ofList (c :: cs),
                          started := true } := by
  induction cs generalizing c with
  | nil =>
    intro f
    simp [step, pushChar]
  | cons d cs ih =>
    intro f
    have hpush : (f.pushChar c).flushBreak = f.pushChar c :=
      flushBreak_of_pendingBreak_eq_false _ (by simp [pushChar, flushBreak]; split <;> rfl)
    rw [List.map_cons, run_cons, step, ih d (f.pushChar c), hpush]
    simp [pushChar, ← String.toList_inj]

theorem pushText_eq_run (f : Fields) (s : String) : f.pushText s = f.run (s.toList.map .char) := by
  cases hs : s.toList with
  | nil =>
    have hempty : s.isEmpty = true := by simp [String.isEmpty_iff, ← String.toList_inj, hs]
    simp [pushText, hempty]
  | cons c cs =>
    have hnonempty : s.isEmpty = false := by simp [← String.toList_inj, hs]
    rw [run_chars c cs f, pushText, if_neg (by simp [hnonempty]), ← hs]
    simp

/-- Adding a value whose blanks split is feeding its characters, each blank a split
point. -/
theorem pushSplit_eq_run (f : Fields) (v : String) :
    f.pushSplit v = f.run ((Part.value v).events true) := by
  rw [pushSplit, Part.events, if_pos rfl, run, List.foldl_map]
  congr 1
  funext g c
  by_cases hc : Syntax.isBlank c <;> simp_all [Syntax.isBlank, step]

theorem feed_eq_run (split : Bool) : ∀ (f : Fields) (ps : List Part),
    f.feed split ps = f.run (ps.flatMap (Part.events split))
  | f, [] => rfl
  | f, p :: ps => by
    rw [List.flatMap_cons, run_append, ← feed_eq_run split _ ps]
    cases p with
    | literal c => rfl
    | value v =>
      cases split
      · exact congrArg (fun g => feed g false ps) (pushText_eq_run f v)
      · exact congrArg (fun g => feed g true ps) (pushSplit_eq_run f v)

end Fields

namespace Scope

/-- A here-document line expands to the characters its parts stand for. -/
theorem expandLine_eq (sc : Scope) (line : String) :
    sc.expandLine line = String.ofList ((sc.parts false line.toList).flatMap Part.chars) := by
  rw [expandLine, Fields.feed_eq_run, Fields.finish_run_empty, Part.flatMap_events_false,
    fieldSplit_chars]
  split <;> simp_all

/-- The events of one piece of a word; `beforeQuote` says whether a quoted piece follows. -/
def segmentEvents (sc : Scope) (beforeQuote : Bool) (s : Segment) : List Event :=
  match s.quoting with
  | .single => .quote :: s.text.toList.map .char
  | .double => .quote :: (sc.expandLine s.text).toList.map .char
  | .bare => (sc.parts beforeQuote s.text.toList).flatMap (Part.events true)

/-- The events of a word's pieces, in order. -/
def events (sc : Scope) : List Segment → List Event
  | [] => []
  | s :: rest => sc.segmentEvents (rest.head?.any (·.quoting != .bare)) s ++ sc.events rest

theorem feedSegments_eq_run (sc : Scope) : ∀ (f : Fields) (segs : List Segment),
    sc.feedSegments f segs = f.run (sc.events segs)
  | f, [] => rfl
  | f, s :: rest => by
    simp only [feedSegments]
    rw [events, Fields.run_append, ← feedSegments_eq_run sc _ rest]
    congr 1
    cases hq : s.quoting with
    | single => simp [segmentEvents, hq, Fields.pushText_eq_run, Fields.step]
    | double =>
      simp [segmentEvents, hq, Fields.feed_eq_run, Fields.step, expandLine_eq,
        Part.flatMap_events_false]
    | bare =>
      cases rest <;> simp [segmentEvents, hq, Fields.feed_eq_run]

/-- The first field of a word, with its start replaced by `HOME` when the word starts with a
bare `~` and `HOME` is set. -/
def tildeFirst (sc : Scope) (segments : List Segment) (first : String) : String :=
  match sc.env.get "HOME" with
  | some home => if startsWithTilde segments then tildeField home first else first
  | none => first

/-- A word's fields are the declarative split of its events, the first one with `~`
replaced. -/
theorem wordFields_eq (sc : Scope) (w : Word) :
    sc.wordFields w = (fieldSplit (sc.events w.segments)).modifyHead (sc.tildeFirst w.segments) := by
  have hsplit : (sc.feedSegments {} w.segments).finish = fieldSplit (sc.events w.segments) := by
    rw [feedSegments_eq_run, Fields.finish_run_empty]
  simp only [wordFields, hsplit]
  rcases fieldSplit (sc.events w.segments) with _ | ⟨first, rest⟩
  · cases sc.env.get "HOME" <;> rfl
  · cases hhome : sc.env.get "HOME" with
    | none => simp [tildeFirst, hhome]
    | some home => by_cases htilde : startsWithTilde w.segments <;> simp [tildeFirst, hhome, htilde]

theorem quote_not_mem_events_true (p : Part) : Event.quote ∉ p.events true := by
  cases p with
  | literal c => simp [Part.events]
  | value v =>
    simp only [Part.events, if_true, List.mem_map, not_exists, not_and]
    intro c _
    split <;> simp

/-- A word with no quoted piece has no quote mark among its events. -/
theorem quote_not_mem_events (sc : Scope) : ∀ segs : List Segment,
    (∀ s ∈ segs, s.quoting = .bare) → Event.quote ∉ sc.events segs
  | [], _ => by simp [events]
  | s :: rest, hbare => by
    have hs : s.quoting = .bare := hbare s List.mem_cons_self
    have hrest := quote_not_mem_events sc rest fun t ht => hbare t (List.mem_cons_of_mem s ht)
    simp only [events, segmentEvents, hs, List.mem_append, List.mem_flatMap, not_or, not_exists,
      not_and]
    exact ⟨fun p _ => quote_not_mem_events_true p, hrest⟩

/-- Replacing the start of a field that is not empty leaves it empty only when the field is
`~` alone and `HOME` is empty. -/
theorem tildeField_eq_empty_iff (home field : String) (hfield : field ≠ "") :
    tildeField home field = "" ↔ field = "~" ∧ home = "" := by
  unfold tildeField
  split
  · next h =>
    have hfield : field = "~" := String.toList_inj.mp (by simpa using h)
    simp [hfield]
  · next rest h =>
    have hne : field ≠ "~" := by
      rintro rfl
      simp at h
    have hslash : home ++ "/" ++ String.ofList rest ≠ "" := by
      intro hempty
      simpa using congrArg String.toList hempty
    simp [hne, hslash]
  · next h _ =>
    have hne : field ≠ "~" := by
      rintro rfl
      exact h rfl
    simp [hfield, hne]

/-- A word with no quoted piece expands to one empty field exactly when it starts with a bare
`~`, splits into `~` alone, and `HOME` is set and empty. -/
theorem wordFields_eq_empty_field_iff (sc : Scope) (w : Word) (hbare : w.isQuoted = false) :
    sc.wordFields w = [""] ↔
      sc.env.get "HOME" = some "" ∧ startsWithTilde w.segments = true ∧
        fieldSplit (sc.events w.segments) = ["~"] := by
  have hsegs : ∀ s ∈ w.segments, s.quoting = .bare := by
    simpa [Word.isQuoted] using hbare
  have hne := empty_not_mem_fieldSplit _ (sc.quote_not_mem_events w.segments hsegs)
  rw [wordFields_eq]
  rcases hsplit : fieldSplit (sc.events w.segments) with _ | ⟨first, rest⟩
  · simp
  · rw [hsplit] at hne
    have hfirst : first ≠ "" := fun h => hne (h ▸ List.mem_cons_self)
    simp only [List.modifyHead_cons, List.cons.injEq]
    cases hhome : sc.env.get "HOME" with
    | none => simp [tildeFirst, hhome, hfirst]
    | some home =>
      by_cases htilde : startsWithTilde w.segments
      · simp only [tildeFirst, hhome, htilde, if_true, Option.some.injEq, true_and]
        rw [tildeField_eq_empty_iff home first hfirst]
        exact ⟨fun ⟨⟨h1, h2⟩, h3⟩ => ⟨h2, h1, h3⟩, fun ⟨h2, h1, h3⟩ => ⟨⟨h1, h2⟩, h3⟩⟩
      · simp [tildeFirst, hhome, htilde, hfirst]

/-- The fields of a word are the declarative split of its events, where a word that starts
with a bare `~` has the start of its first field replaced by `HOME` when it is set. -/
theorem expandWord_fields (sc : Scope) (w : Word) :
    (sc.expandWord w).fields =
      (fieldSplit (sc.events w.segments)).modifyHead (sc.tildeFirst w.segments) :=
  sc.wordFields_eq w

end Scope

end Conch
