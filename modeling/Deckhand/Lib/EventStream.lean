import Deckhand.Lib.Cursor

/-! The event-stream format: a reader that takes a text character by character, and what it
reads of messages and comments that were written one after the other. -/
namespace Deckhand.Lib

structure Message where
  id : List Char
  type : List Char
  data : List Char
  deriving DecidableEq

def lineFeed : Char := '\n'

def carriageReturn : Char := '\r'

def colon : Char := ':'

/-- A reader between two characters: the line as far as it has come, backwards, whether a carriage
return came last, the buffers of the message to come, and the messages so far. -/
structure EventReader where
  line : List Char
  carriage : Bool
  lastId : List Char
  type : List Char
  data : List Char
  messages : List Message

namespace EventReader

/-- A blank after the colon is not part of the value. -/
def fieldValue : List Char → List Char
  | [] => []
  | c :: rest => if c = ' ' then rest else c :: rest

def field (r : EventReader) (name value : List Char) : EventReader :=
  if name = "id".toList then if '\x00' ∈ value then r else { r with lastId := value }
  else if name = "event".toList then { r with type := value }
  else if name = "data".toList then { r with data := r.data ++ value ++ [lineFeed] }
  else r

/-- An empty line ends the message; without data there is none. -/
def dispatch (r : EventReader) : EventReader :=
  if r.data = [] then { r with type := [] }
  else
    let type := if r.type = [] then "message".toList else r.type
    { r with type := [], data := [],
             messages := r.messages ++ [⟨r.lastId, type, r.data.dropLast⟩] }

/-- A line that starts with a colon has an empty name, which no field has. -/
def endLine (r : EventReader) : EventReader :=
  let line := r.line.reverse
  let rest := { r with line := [] }
  if line = [] then rest.dispatch
  else rest.field (line.takeWhile (· ≠ colon)) (fieldValue (line.dropWhile (· ≠ colon)).tail)

/-- Lines end with either character, or with both of them in order. -/
def step (r : EventReader) (c : Char) : EventReader :=
  if c = lineFeed then if r.carriage then { r with carriage := false } else r.endLine
  else if c = carriageReturn then { r.endLine with carriage := true }
  else { r with line := c :: r.line, carriage := false }

def read (r : EventReader) (text : List Char) : EventReader := text.foldl step r

/-- Between two messages. -/
def between (id : List Char) (messages : List Message) : EventReader :=
  ⟨[], false, id, [], [], messages⟩

end EventReader

/-- What a reader takes from a text that ends anywhere. -/
def messagesOf (text : List Char) : List Message := ((EventReader.between [] []).read text).messages

def OneLine (s : List Char) : Prop := ∀ c ∈ s, c ≠ lineFeed ∧ c ≠ carriageReturn

instance oneLine_decidable (s : List Char) : Decidable (OneLine s) :=
  List.decidableBAll (fun c => c ≠ lineFeed ∧ c ≠ carriageReturn) s

def fieldLine (name : String) (value : List Char) : List Char :=
  name.toList ++ colon :: ' ' :: value ++ [lineFeed]

def Message.text (m : Message) : List Char :=
  fieldLine "id" m.id ++ fieldLine "event" m.type ++ fieldLine "data" m.data ++ [lineFeed]

/-- A message that its text says. -/
structure Message.Proper (m : Message) : Prop where
  id : OneLine m.id
  zero : '\x00' ∉ m.id
  type : OneLine m.type
  named : m.type ≠ []
  data : OneLine m.data

/-- What a writer sends: a message, or a comment that readers pass over. -/
inductive StreamPart where
  | message (m : Message)
  | comment (text : List Char)

namespace StreamPart

def text : StreamPart → List Char
  | .message m => m.text
  | .comment text => colon :: text ++ [lineFeed, lineFeed]

def message? : StreamPart → Option Message
  | .message m => some m
  | .comment _ => none

def Proper : StreamPart → Prop
  | .message m => m.Proper
  | .comment text => OneLine text

end StreamPart

namespace EventReader
section
variable {r : EventReader} {s t : List Char}

theorem read_append : r.read (s ++ t) = (r.read s).read t := List.foldl_append

theorem read_oneLine (whole : OneLine s) (apart : r.carriage = false) :
    r.read s = { r with line := s.reverse ++ r.line } := by
  induction s generalizing r with
  | nil => rfl
  | cons c rest ih =>
    obtain ⟨first, later⟩ := List.forall_mem_cons.mp whole
    have stepped : r.step c = { r with line := c :: r.line } := by
      rw [step, if_neg first.1, if_neg first.2, apart]
    have read := ih (r := { r with line := c :: r.line }) later apart
    change (r.step c).read rest = _
    rw [stepped, read]
    simp

theorem read_line (whole : OneLine s) (apart : r.carriage = false) (fresh : r.line = []) :
    r.read (s ++ [lineFeed]) = if s = [] then r.dispatch
      else r.field (s.takeWhile (· ≠ colon)) (fieldValue (s.dropWhile (· ≠ colon)).tail) := by
  have same : { r with line := [] } = r := by rw [← fresh]
  rw [read_append, read_oneLine whole apart, fresh, List.append_nil]
  change step _ lineFeed = _
  rw [step, if_pos rfl, apart, if_neg (by simp)]
  simp only [endLine, List.reverse_reverse, apart.symm, same]

theorem read_empty (apart : r.carriage = false) (fresh : r.line = []) :
    r.read [lineFeed] = r.dispatch := by
  have nothing : OneLine [] := fun c member => absurd member List.not_mem_nil
  exact (read_line nothing apart fresh).trans (if_pos rfl)

theorem fieldNames_plain : ∀ name ∈ ["id", "event", "data"],
    OneLine (name.toList) ∧ colon ∉ name.toList := by
  decide +kernel

theorem read_field {name : String} (known : name ∈ ["id", "event", "data"]) (value : OneLine s)
    (apart : r.carriage = false) (fresh : r.line = []) :
    r.read (fieldLine name s) = r.field (name.toList) s := by
  obtain ⟨whole, plain⟩ := fieldNames_plain name known
  have solid : OneLine (name.toList ++ colon :: ' ' :: s) := by
    intro c member
    rcases List.mem_append.mp member with front | back
    · exact whole c front
    · rcases List.mem_cons.mp back with rfl | back
      · decide
      · rcases List.mem_cons.mp back with rfl | back
        · decide
        · exact value c back
  have before : ∀ c ∈ name.toList, decide (c ≠ colon) = true := by
    intro c member
    apply decide_eq_true
    rintro rfl
    exact plain member
  rw [fieldLine, read_line solid apart fresh, if_neg (by simp)]
  simp only [List.takeWhile_append_of_pos before, List.dropWhile_append_of_pos before]
  rw [List.takeWhile_cons_of_neg (by simp), List.dropWhile_cons_of_neg (by simp), List.append_nil,
    List.tail_cons, fieldValue, if_pos rfl]

variable {id : List Char} {messages : List Message}

theorem read_message {m : Message} (proper : m.Proper) :
    (between id messages).read m.text = between m.id (messages ++ [m]) := by
  rw [Message.text, read_append, read_append, read_append,
    read_field (by decide) proper.id rfl rfl, field, if_pos rfl, if_neg proper.zero,
    read_field (by decide) proper.type rfl rfl, field, if_neg (by decide), if_pos rfl,
    read_field (by decide) proper.data rfl rfl, field, if_neg (by decide),
    if_neg (by decide), if_pos rfl, read_empty rfl rfl, dispatch, if_neg (by simp [between])]
  simp [between, proper.named]

theorem read_comment (whole : OneLine s) :
    (between id messages).read (colon :: s ++ [lineFeed, lineFeed]) = between id messages := by
  have solid : OneLine (colon :: s) := List.forall_mem_cons.mpr ⟨by decide, whole⟩
  have split : colon :: s ++ [lineFeed, lineFeed] = (colon :: s ++ [lineFeed]) ++ [lineFeed] := by
    rw [List.append_assoc]
    rfl
  have unnamed : (colon :: s).takeWhile (· ≠ colon) = [] := List.takeWhile_cons_of_neg (by simp)
  rw [split, read_append, read_line solid rfl rfl, if_neg (by simp)]
  simp only [unnamed]
  rw [field, if_neg (by decide), if_neg (by decide), if_neg (by decide)]
  exact read_empty rfl rfl

theorem read_parts {parts : List StreamPart} (proper : ∀ p ∈ parts, p.Proper) :
    (between id messages).read (parts.flatMap StreamPart.text) =
      between (reached Message.id id (parts.filterMap StreamPart.message?))
        (messages ++ parts.filterMap StreamPart.message?) := by
  induction parts using List.reverseRecOn with
  | nil =>
    rw [List.filterMap_nil, List.append_nil]
    rfl
  | append_singleton parts p ih =>
    obtain ⟨before, last⟩ := List.forall_mem_append.mp proper
    rw [List.flatMap_append, read_append, ih before, List.filterMap_append]
    have here := last p (by simp)
    cases p with
    | message m =>
      have said : [StreamPart.message m].filterMap StreamPart.message? = [m] := rfl
      rw [List.flatMap_singleton, StreamPart.text, read_message here, said, reached_concat,
        List.append_assoc]
    | comment text =>
      have silent : [StreamPart.comment text].filterMap StreamPart.message? = [] := rfl
      rw [List.flatMap_singleton, StreamPart.text, read_comment here, silent, List.append_nil]

theorem field_messages (name value : List Char) : (r.field name value).messages = r.messages := by
  unfold field
  split
  · split <;> rfl
  · split
    · rfl
    · split <;> rfl

theorem endLine_grows : r.messages <+: r.endLine.messages := by
  unfold endLine
  dsimp only
  split
  · unfold dispatch
    split
    · exact List.prefix_rfl
    · exact List.prefix_append ..
  · rw [field_messages]

theorem step_grows (c : Char) : r.messages <+: (r.step c).messages := by
  unfold step
  split
  · split
    · exact List.prefix_rfl
    · exact endLine_grows
  · split
    · exact endLine_grows
    · exact List.prefix_rfl

theorem read_grows (s : List Char) : r.messages <+: (r.read s).messages := by
  induction s generalizing r with
  | nil => exact List.prefix_rfl
  | cons c rest ih => exact (step_grows c).trans ih

end
end EventReader

section
variable {parts : List StreamPart} {text : List Char}

theorem messagesOf_parts (proper : ∀ p ∈ parts, p.Proper) :
    messagesOf (parts.flatMap StreamPart.text) = parts.filterMap StreamPart.message? := by
  rw [messagesOf, EventReader.read_parts proper, List.nil_append]
  rfl

theorem messagesOf_cut (proper : ∀ p ∈ parts, p.Proper)
    (cut : text <+: parts.flatMap StreamPart.text) :
    messagesOf text <+: parts.filterMap StreamPart.message? := by
  obtain ⟨later, whole⟩ := cut
  rw [← messagesOf_parts proper, ← whole]
  change _ <+: ((EventReader.between [] []).read (text ++ later)).messages
  rw [EventReader.read_append]
  exact EventReader.read_grows later

end
end Deckhand.Lib
