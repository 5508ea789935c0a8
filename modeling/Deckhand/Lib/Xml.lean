import Mathlib.Tactic.Common

/-! A reader of XML 1.0 documents without a prolog, comments, sections and instructions: one step
a character, with what was read as events. -/
namespace Deckhand.Lib.Xml

def isChar (c : Char) : Bool :=
  c = '\t' || c = '\n' || c = '\r' || 0x20 ≤ c.toNat && c.toNat ≠ 0xfffe && c.toNat ≠ 0xffff

def isBlank (c : Char) : Bool := c = ' ' || c = '\t' || c = '\n' || c = '\r'

def nameStarts : List (Nat × Nat) :=
  [(0x3a, 0x3a), (0x41, 0x5a), (0x5f, 0x5f), (0x61, 0x7a), (0xc0, 0xd6), (0xd8, 0xf6),
    (0xf8, 0x2ff), (0x370, 0x37d), (0x37f, 0x1fff), (0x200c, 0x200d), (0x2070, 0x218f),
    (0x2c00, 0x2fef), (0x3001, 0xd7ff), (0xf900, 0xfdcf), (0xfdf0, 0xfffd), (0x10000, 0xeffff)]

def nameRest : List (Nat × Nat) :=
  [(0x2d, 0x2e), (0x30, 0x39), (0xb7, 0xb7), (0x300, 0x36f), (0x203f, 0x2040)]

def isIn (ranges : List (Nat × Nat)) (c : Char) : Bool :=
  ranges.any fun r => r.1 ≤ c.toNat && c.toNat ≤ r.2

def isNameStart (c : Char) : Bool := isIn nameStarts c

def isNameChar (c : Char) : Bool := isIn nameStarts c || isIn nameRest c

abbrev Name := List Char

def predefined : List (Name × Char) :=
  [(['l', 't'], '<'), (['g', 't'], '>'), (['a', 'm', 'p'], '&'), (['a', 'p', 'o', 's'], '\''),
    (['q', 'u', 'o', 't'], '"')]

def digitValue (base : Nat) (c : Char) : Option Nat :=
  let n := c.toNat
  let value := if n < 0x41 then n - 0x30 else if n < 0x61 then n - 0x41 + 10 else n - 0x61 + 10
  if c.isAlphanum && value < base then some value else none

def numbered (base : Nat) (digits : Name) : Option Char := do
  let values ← digits.mapM (digitValue base)
  let n := values.foldl (fun n d => n * base + d) 0
  if digits ≠ [] ∧ n.isValidChar ∧ isChar (.ofNat n) then return .ofNat n else none

/-- What stands between the `&` and the `;` of a reference. -/
def referred : Name → Option Char
  | '#' :: 'x' :: digits => numbered 16 digits
  | '#' :: digits => numbered 10 digits
  | name => predefined.lookup name

def isReference (c : Char) : Bool := isNameChar c || c = '#'

inductive Event where
  | opened (tag : Name)
  | char (c : Char)
  | closed (tag : Name)
  deriving DecidableEq

/-- Where in a document the reader is. In content it counts the brackets just read; within a tag
it has the names of the attributes so far. -/
inductive Mode where
  | content (brackets : Nat)
  | textReference (name : Name)
  | markup
  | startTag (tag : Name)
  | endTag (tag : Name)
  | endTagBlank (tag : Name)
  | attributes (tag : Name) (names : List Name) (apart : Bool)
  | attributeName (tag : Name) (names : List Name) (name : Name)
  | equals (tag : Name) (names : List Name) (name : Name)
  | quote (tag : Name) (names : List Name)
  | value (tag : Name) (names : List Name) (quote : Char)
  | valueReference (tag : Name) (names : List Name) (quote : Char) (name : Name)
  | emptyTag (tag : Name)
  deriving DecidableEq

/-- The elements that are open, whether there was a root element, and the mode. -/
structure State where
  elements : List Name
  rooted : Bool
  mode : Mode
  deriving DecidableEq

def start : State := ⟨[], false, .content 0⟩

abbrev Outcome := Option (State × List Event)

namespace State

def goto (s : State) (mode : Mode) : Outcome := some ({ s with mode }, [])

def enter (s : State) (tag : Name) : Outcome :=
  some (⟨tag :: s.elements, true, .content 0⟩, [.opened tag])

def leave (s : State) (tag : Name) : Outcome :=
  match s.elements with
  | top :: elements =>
    if top = tag then some (⟨elements, s.rooted, .content 0⟩, [.closed tag]) else none
  | [] => none

def content (s : State) (brackets : Nat) (c : Char) : Outcome :=
  if c = '<' then s.goto .markup
  else if s.elements = [] then if isBlank c then s.goto (.content 0) else none
  else if c = '&' then s.goto (.textReference [])
  else if c = '>' ∧ 2 ≤ brackets then none
  else some ({ s with mode := .content (if c = ']' then brackets + 1 else 0) }, [.char c])

def textReference (s : State) (name : Name) (c : Char) : Outcome :=
  if c = ';' then (referred name).map fun c => ({ s with mode := .content 0 }, [.char c])
  else if isReference c then s.goto (.textReference (name ++ [c]))
  else none

def markup (s : State) (c : Char) : Outcome :=
  if c = '/' then s.goto (.endTag [])
  else if isNameStart c ∧ ¬ (s.elements = [] ∧ s.rooted) then s.goto (.startTag [c])
  else none

def startTag (s : State) (tag : Name) (c : Char) : Outcome :=
  if isNameChar c then s.goto (.startTag (tag ++ [c]))
  else if isBlank c then s.goto (.attributes tag [] true)
  else if c = '>' then s.enter tag
  else if c = '/' then s.goto (.emptyTag tag)
  else none

def endTag (s : State) (tag : Name) (c : Char) : Outcome :=
  if isNameChar c then s.goto (.endTag (tag ++ [c]))
  else if isBlank c then s.goto (.endTagBlank tag)
  else if c = '>' then s.leave tag
  else none

def endTagBlank (s : State) (tag : Name) (c : Char) : Outcome :=
  if isBlank c then s.goto (.endTagBlank tag) else if c = '>' then s.leave tag else none

def attributes (s : State) (tag : Name) (names : List Name) (apart : Bool) (c : Char) : Outcome :=
  if isBlank c then s.goto (.attributes tag names true)
  else if c = '>' then s.enter tag
  else if c = '/' then s.goto (.emptyTag tag)
  else if apart ∧ isNameStart c then s.goto (.attributeName tag names [c])
  else none

/-- An attribute's name has ended with its `=`; a tag has a name once. -/
def named (s : State) (tag : Name) (names : List Name) (name : Name) : Outcome :=
  if name ∈ names then none else s.goto (.quote tag (name :: names))

def attributeName (s : State) (tag : Name) (names : List Name) (name : Name) (c : Char) :
    Outcome :=
  if isNameChar c then s.goto (.attributeName tag names (name ++ [c]))
  else if isBlank c then s.goto (.equals tag names name)
  else if c = '=' then s.named tag names name
  else none

def equals (s : State) (tag : Name) (names : List Name) (name : Name) (c : Char) : Outcome :=
  if isBlank c then s.goto (.equals tag names name)
  else if c = '=' then s.named tag names name
  else none

def quote (s : State) (tag : Name) (names : List Name) (c : Char) : Outcome :=
  if isBlank c then s.goto (.quote tag names)
  else if c = '"' ∨ c = '\'' then s.goto (.value tag names c)
  else none

def value (s : State) (tag : Name) (names : List Name) (quote : Char) (c : Char) : Outcome :=
  if c = quote then s.goto (.attributes tag names false)
  else if c = '<' then none
  else if c = '&' then s.goto (.valueReference tag names quote [])
  else s.goto (.value tag names quote)

def valueReference (s : State) (tag : Name) (names : List Name) (quote : Char) (name : Name)
    (c : Char) : Outcome :=
  if c = ';' then if (referred name).isSome then s.goto (.value tag names quote) else none
  else if isReference c then s.goto (.valueReference tag names quote (name ++ [c]))
  else none

/-- After the `/` of a tag that is its own end. -/
def emptyTag (s : State) (tag : Name) (c : Char) : Outcome :=
  if c = '>' then
    some ({ s with rooted := true, mode := .content 0 }, [.opened tag, .closed tag])
  else none

def step (s : State) (c : Char) : Outcome :=
  match s.mode with
  | .content brackets => s.content brackets c
  | .textReference name => s.textReference name c
  | .markup => s.markup c
  | .startTag tag => s.startTag tag c
  | .endTag tag => s.endTag tag c
  | .endTagBlank tag => s.endTagBlank tag c
  | .attributes tag names apart => s.attributes tag names apart c
  | .attributeName tag names name => s.attributeName tag names name c
  | .equals tag names name => s.equals tag names name c
  | .quote tag names => s.quote tag names c
  | .value tag names quote => s.value tag names quote c
  | .valueReference tag names quote name => s.valueReference tag names quote name c
  | .emptyTag tag => s.emptyTag tag c

end State

def run (s : State) : List Char → Outcome
  | [] => some (s, [])
  | c :: rest => (s.step c).bind fun r => (run r.1 rest).map fun r' => (r'.1, r.2 ++ r'.2)

/-- Each end of a line as one line feed; `returned` says that a carriage return came before. -/
def endLines (returned : Bool) : List Char → List Char
  | [] => []
  | c :: rest =>
    if c = '\r' then '\n' :: endLines true rest
    else if c = '\n' ∧ returned then endLines false rest
    else c :: endLines false rest

def State.isDone (s : State) : Bool :=
  s.elements = [] && s.rooted && s.mode = .content 0

/-- The events of a well-formed document. -/
def read (text : List Char) : Option (List Event) := do
  let (s, events) ← run start (endLines false text)
  if text.all isChar && s.isDone then return events else none

def Event.char? : Event → Option Char
  | .char c => some c
  | _ => none

def textNode : List Event → List Char
  | .char c :: events => c :: textNode events
  | _ => []

/-- The text that each element of a name starts with. -/
def texts (tag : Name) : List Event → List (List Char)
  | [] => []
  | event :: events =>
    if event = .opened tag then textNode events :: texts tag events else texts tag events

def escape (c : Char) : List Char :=
  match predefined.find? fun entry => entry.2 = c with
  | some (name, _) => '&' :: name ++ [';']
  | none => [c]

section Run
variable {s s' : State} {c : Char} {text more : List Char}

theorem run_append : run s (text ++ more) = (run s text).bind fun r =>
    (run r.1 more).map fun r' => (r'.1, r.2 ++ r'.2) := by
  induction text generalizing s with
  | nil => simp [run]
  | cons c text ih =>
    rw [List.cons_append, run, run, Option.bind_assoc]
    congr 1
    funext r
    rw [ih, Option.bind_map, Option.map_bind]
    congr 1
    funext r'
    simp [Option.map_map, Function.comp_def, List.append_assoc]

theorem run_piece {events : List Event} (piece : run s text = some (s', events)) :
    run s (text ++ more) = (run s' more).map fun r => (r.1, events ++ r.2) := by
  rw [run_append, piece, Option.bind_some]

theorem run_step {events : List Event} (step : s.step c = some (s', events)) :
    run s (c :: more) = (run s' more).map fun r => (r.1, events ++ r.2) := by
  rw [run, step, Option.bind_some]

theorem escape_cases (c : Char) : (escape c = [c] ∧ c ≠ '<' ∧ c ≠ '&' ∧ c ≠ '>') ∨
    ∃ name, escape c = '&' :: name ++ [';'] ∧ referred name = some c ∧
      ∀ d ∈ name, isReference d = true ∧ d.toNat < 0x80 := by
  have known : (predefined.all fun entry => referred entry.1 = some entry.2 &&
      entry.1.all fun d => isReference d && d.toNat < 0x80) = true := by decide
  cases found : predefined.find? fun entry => entry.2 = c with
  | none =>
    refine .inl ⟨by rw [escape, found], ?_⟩
    have other := List.find?_eq_none.mp found
    simp only [predefined, List.mem_cons, List.not_mem_nil, or_false, forall_eq_or_imp, forall_eq,
      decide_eq_true_eq] at other
    exact ⟨Ne.symm other.1, Ne.symm other.2.2.1, Ne.symm other.2.1⟩
  | some entry =>
    obtain ⟨name, d⟩ := entry
    obtain ⟨refers, all⟩ := Bool.and_eq_true_iff.mp
      (List.all_eq_true.mp known _ (List.mem_of_find?_eq_some found))
    have same : d = c := by simpa using List.find?_some found
    refine .inr ⟨name, by rw [escape, found], by rw [of_decide_eq_true refers, same], ?_⟩
    intro e member
    simpa using List.all_eq_true.mp all e member

theorem escape_isChar (legal : isChar c = true) : ∀ d ∈ escape c, isChar d = true := by
  have known : (predefined.all fun entry => ('&' :: entry.1 ++ [';']).all isChar) = true := by
    decide
  intro d member
  unfold escape at member
  split at member
  · rename_i found
    have all := List.all_eq_true.mp known _ (List.mem_of_find?_eq_some found)
    exact List.all_eq_true.mp all d member
  · rw [List.mem_singleton.mp member]
    exact legal

/-- Within an element. -/
structure State.InContent (s : State) : Prop where
  mode : ∃ brackets, s.mode = .content brackets
  inside : s.elements ≠ []

theorem step_plain (here : s.InContent) (lt : c ≠ '<') (amp : c ≠ '&') (gt : c ≠ '>') :
    ∃ brackets, s.step c = some ({ s with mode := .content brackets }, [.char c]) := by
  obtain ⟨brackets, mode⟩ := here.mode
  refine ⟨if c = ']' then brackets + 1 else 0, ?_⟩
  rw [State.step, mode]
  simp [State.content, lt, amp, gt, here.inside]

theorem step_ampersand (here : s.InContent) :
    s.step '&' = some ({ s with mode := .textReference [] }, []) := by
  obtain ⟨brackets, mode⟩ := here.mode
  rw [State.step, mode]
  simp [State.content, State.goto, here.inside]

theorem step_less (here : s.InContent) : s.step '<' = some ({ s with mode := .markup }, []) := by
  obtain ⟨brackets, mode⟩ := here.mode
  rw [State.step, mode]
  simp [State.content, State.goto]

theorem run_name {name name' : Name} (all : ∀ d ∈ name', isReference d = true)
    (mode : s.mode = .textReference name) :
    run s name' = some ({ s with mode := .textReference (name ++ name') }, []) := by
  induction name' generalizing s name with
  | nil =>
    obtain ⟨elements, rooted, here⟩ := s
    obtain rfl : here = .textReference name := mode
    simp [run]
  | cons d name' ih =>
    have first := all d List.mem_cons_self
    have other : d ≠ ';' := by
      rintro rfl
      exact absurd first (by decide)
    have step : s.step d = some ({ s with mode := .textReference (name ++ [d]) }, []) := by
      rw [State.step, mode]
      simp [State.textReference, State.goto, other, first]
    rw [run_step step, ih (fun e member => all e (List.mem_cons_of_mem _ member)) rfl]
    simp

theorem run_escape (here : s.InContent) : ∃ brackets,
    run s (escape c) = some ({ s with mode := .content brackets }, [.char c]) := by
  rcases escape_cases c with ⟨plain, lt, amp, gt⟩ | ⟨name, written, refers, all⟩
  · obtain ⟨brackets, step⟩ := step_plain here lt amp gt
    exact ⟨brackets, by rw [plain, run_step step]; rfl⟩
  · have read := run_name (s := { s with mode := .textReference [] })
      (fun d member => (all d member).1) rfl
    have close : State.step { s with mode := .textReference name } ';' =
        some ({ s with mode := .content 0 }, [.char c]) := by
      simp [State.step, State.textReference, refers]
    refine ⟨0, ?_⟩
    rw [written, List.cons_append, run_step (step_ampersand here), run_piece read,
      List.nil_append, run_step close]
    rfl

theorem run_escaped (here : s.InContent) : ∃ brackets, run s (text.flatMap escape) =
    some ({ s with mode := .content brackets }, text.map .char) := by
  induction text generalizing s with
  | nil =>
    obtain ⟨brackets, mode⟩ := here.mode
    refine ⟨brackets, ?_⟩
    rw [← mode]
    rfl
  | cons c text ih =>
    obtain ⟨brackets, first⟩ := run_escape (c := c) here
    obtain ⟨brackets', rest⟩ := ih (s := { s with mode := .content brackets })
      ⟨⟨brackets, rfl⟩, here.inside⟩
    refine ⟨brackets', ?_⟩
    rw [List.flatMap_cons, run_piece first, rest]
    rfl

/-- The first characters of an escaped one, but not all of them. -/
structure Cut (piece : List Char) (c : Char) : Prop where
  part : piece <+: escape c
  nonempty : piece ≠ []
  short : piece ≠ escape c

theorem Cut.shape {piece : List Char} (cut : Cut piece c) :
    ∃ name, piece = '&' :: name ∧ ∀ d ∈ name, isReference d = true := by
  obtain ⟨part, some', short⟩ := cut
  rcases escape_cases c with ⟨plain, -⟩ | ⟨name, written, -, all⟩
  · rw [plain] at part short
    rcases List.prefix_cons_iff.mp part with rfl | ⟨rest, rfl, nothing⟩
    · exact absurd rfl some'
    · rw [List.prefix_nil.mp nothing] at short
      exact absurd rfl short
  · rw [written, List.cons_append] at part short
    rcases List.prefix_cons_iff.mp part with rfl | ⟨rest, rfl, rest_part⟩
    · exact absurd rfl some'
    · refine ⟨rest, rfl, fun d member => ?_⟩
      rcases List.prefix_concat_iff.mp rest_part with rfl | rest_part
      · exact absurd rfl short
      · exact (all d (rest_part.subset member)).1

theorem run_cut {piece : List Char} (here : s.InContent) (cut : Cut piece c) :
    run s (piece ++ '<' :: more) = none := by
  obtain ⟨name, rfl, all⟩ := cut.shape
  have read := run_name (s := { s with mode := .textReference [] }) all rfl
  have stop : State.step { s with mode := .textReference name } '<' = none := by
    have other : isReference '<' = false := by decide
    simp [State.step, State.textReference, other]
  rw [List.cons_append, run_step (step_ampersand here), run_piece read, List.nil_append, run, stop]
  rfl

end Run

section Lines
variable {returned : Bool} {text more : List Char}

theorem endLines_other (first : more.head? ≠ some '\n') :
    endLines returned more = endLines false more := by
  cases more with
  | nil => rfl
  | cons c more =>
    have other : c ≠ '\n' := fun same => first (by rw [same]; rfl)
    simp [endLines, other]

theorem endLines_append (first : more.head? ≠ some '\n') :
    endLines returned (text ++ more) = endLines returned text ++ endLines false more := by
  induction text generalizing returned with
  | nil => exact endLines_other first
  | cons c text ih =>
    simp only [List.cons_append, endLines]
    split
    · rw [ih, List.cons_append]
    · split
      · exact ih
      · rw [ih, List.cons_append]

theorem endLines_free (plain : '\r' ∉ text) :
    endLines false (text ++ more) = text ++ endLines false more := by
  induction text with
  | nil => rfl
  | cons c text ih =>
    obtain ⟨other, rest⟩ := not_or.mp (mt List.mem_cons.mpr plain)
    rw [List.cons_append, endLines, if_neg (Ne.symm other), if_neg (by simp), ih rest]
    rfl

theorem endLines_plain (plain : '\r' ∉ text) : endLines false text = text := by
  have whole : endLines false (text ++ []) = _ := endLines_free plain
  rwa [List.append_nil, endLines, List.append_nil] at whole

theorem endLines_word {word : List Char} (plain : ∀ c ∈ word, c ≠ '\r' ∧ c ≠ '\n')
    (some' : word ≠ []) : endLines returned (word ++ more) = word ++ endLines false more := by
  induction word generalizing returned with
  | nil => exact absurd rfl some'
  | cons c word ih =>
    obtain ⟨cr, lf⟩ := plain c List.mem_cons_self
    rw [List.cons_append, endLines, if_neg cr, if_neg (fun h => lf h.1)]
    cases word with
    | nil => rfl
    | cons d word =>
      rw [ih (fun e member => plain e (List.mem_cons_of_mem _ member)) (List.cons_ne_nil d word)]
      rfl

theorem escape_word {c : Char} (cr : c ≠ '\r') (lf : c ≠ '\n') :
    (∀ d ∈ escape c, d ≠ '\r' ∧ d ≠ '\n') ∧ escape c ≠ [] := by
  rcases escape_cases c with ⟨plain, -⟩ | ⟨name, written, -, all⟩
  · rw [plain]
    simp [cr, lf]
  · rw [written]
    refine ⟨fun d member => ?_, by simp⟩
    have ends : isReference '\r' = false ∧ isReference '\n' = false := by decide
    simp only [List.cons_append, List.mem_cons, List.mem_append, List.not_mem_nil,
      or_false] at member
    rcases member with rfl | member | rfl
    · decide
    · have reads := (all d member).1
      constructor
      · rintro rfl
        rw [ends.1] at reads
        cases reads
      · rintro rfl
        rw [ends.2] at reads
        cases reads
    · decide

theorem endLines_escape :
    endLines returned (text.flatMap escape) = (endLines returned text).flatMap escape := by
  have feed : escape '\n' = ['\n'] := by decide
  have back : escape '\r' = ['\r'] := by decide
  induction text generalizing returned with
  | nil => rfl
  | cons c text ih =>
    rw [List.flatMap_cons, endLines]
    by_cases cr : c = '\r'
    · rw [if_pos cr, cr, back, List.flatMap_cons, feed, List.singleton_append, endLines,
        if_pos rfl, ih]
      rfl
    rw [if_neg cr]
    by_cases lf : c = '\n'
    · rw [lf, feed, List.singleton_append, endLines, if_neg (by decide)]
      cases returned with
      | false => simpa [feed] using ih
      | true => simpa using ih
    rw [if_neg (fun h => lf h.1), List.flatMap_cons]
    obtain ⟨plain, some'⟩ := escape_word cr lf
    rw [endLines_word plain some', ih]

/-- What a reader makes of the first characters of a text are its first characters exactly if
there is no carriage return among them. -/
theorem endLines_prefix_iff : endLines false text <+: text ++ more ↔ '\r' ∉ text := by
  constructor
  · intro part
    induction text with
    | nil => exact List.not_mem_nil
    | cons c text ih =>
      rw [endLines] at part
      by_cases cr : c = '\r'
      · rw [if_pos cr, List.cons_append, List.cons_prefix_cons, cr] at part
        exact absurd part.1 (by decide)
      · rw [if_neg cr, if_neg (by simp), List.cons_append, List.cons_prefix_cons] at part
        rw [List.mem_cons, not_or]
        exact ⟨Ne.symm cr, ih part.2⟩
  · intro plain
    rw [endLines_plain plain]
    exact List.prefix_append text more

end Lines

section Content
variable {s : State} {kept more : List Char}

theorem run_text (here : s.InContent) :
    run s (endLines false (kept.flatMap escape ++ '<' :: more)) =
      (run { s with mode := .markup } (endLines false more)).map fun r =>
        (r.1, (endLines false kept).map .char ++ r.2) := by
  obtain ⟨brackets, read⟩ : ∃ b, run s ((endLines false kept).flatMap escape) = some (_, _) :=
    run_escaped here
  have within : State.InContent { s with mode := .content brackets } :=
    ⟨⟨brackets, rfl⟩, here.inside⟩
  rw [endLines_append (by simp), endLines_escape, endLines, if_neg (by decide), if_neg (by simp),
    run_piece read, run_step (step_less within), Option.map_map]
  rfl

theorem run_text_cut {piece : List Char} {c : Char} (here : s.InContent) (cut : Cut piece c) :
    run s (endLines false (kept.flatMap escape ++ (piece ++ '<' :: more))) = none := by
  obtain ⟨brackets, read⟩ : ∃ b, run s ((endLines false kept).flatMap escape) = some (_, _) :=
    run_escaped here
  have within : State.InContent { s with mode := .content brackets } :=
    ⟨⟨brackets, rfl⟩, here.inside⟩
  obtain ⟨name, shape, all⟩ := cut.shape
  have plain : '\r' ∉ piece := by
    rw [shape, List.mem_cons, not_or]
    refine ⟨by decide, fun member => ?_⟩
    exact absurd (all '\r' member) (by decide)
  have first : (piece ++ '<' :: more).head? ≠ some '\n' := by
    rw [shape]
    simp
  rw [endLines_append first, endLines_escape, endLines_free plain, endLines, if_neg (by decide),
    if_neg (by simp), run_piece read, run_cut within cut]
  rfl

end Content

section Texts
variable {tag : Name} {events more : List Event} {text : List Char}

theorem texts_skip (others : ∀ event ∈ events, event ≠ .opened tag) :
    texts tag (events ++ more) = texts tag more := by
  induction events with
  | nil => rfl
  | cons event events ih =>
    rw [List.cons_append, texts, if_neg (others event List.mem_cons_self)]
    exact ih fun e member => others e (List.mem_cons_of_mem _ member)

theorem textNode_chars (other : Event) (end_ : other.char? = none) :
    textNode (text.map .char ++ other :: more) = text := by
  induction text with
  | nil =>
    cases other with
    | char c => cases end_
    | opened tag => rfl
    | closed tag => rfl
  | cons c text ih => rw [List.map_cons, List.cons_append, textNode, ih]

theorem texts_element (other : Event) (end_ : other.char? = none) (apart : other ≠ .opened tag) :
    texts tag (.opened tag :: (text.map .char ++ other :: more)) = text :: texts tag more := by
  rw [texts, if_pos rfl, textNode_chars other end_]
  congr 1
  have chars : ∀ event ∈ text.map Event.char ++ [other], event ≠ .opened tag := by
    intro event member
    rcases List.mem_append.mp member with member | member
    · obtain ⟨c, -, rfl⟩ := List.mem_map.mp member
      exact Event.noConfusion
    · rw [List.mem_singleton.mp member]
      exact apart
  have skip : texts tag ((text.map Event.char ++ [other]) ++ more) = texts tag more :=
    texts_skip chars
  rwa [List.append_assoc] at skip

end Texts

theorem read_none {text : List Char} (ran : run start (endLines false text) = none) :
    read text = none := by
  unfold read
  rw [ran]
  rfl

theorem read_eq_some {text : List Char} {events : List Event} : read text = some events ↔
    text.all isChar = true ∧ ∃ s : State, run start (endLines false text) = some (s, events) ∧
      s.isDone = true := by
  rw [read]
  cases ran : run start (endLines false text) with
  | none => simp
  | some r =>
    obtain ⟨s, events'⟩ := r
    simp only [Option.bind_eq_bind, Option.bind_some, Option.pure_def, Option.some.injEq,
      Prod.mk.injEq, Bool.and_eq_true, Option.ite_none_right_eq_some]
    constructor
    · rintro ⟨⟨legal, done⟩, same⟩
      exact ⟨legal, s, ⟨rfl, same⟩, done⟩
    · rintro ⟨legal, s, ⟨rfl, same⟩, done⟩
      exact ⟨⟨legal, done⟩, same⟩

end Deckhand.Lib.Xml
