import Deckhand.Lib.Xml
import Deckhand.StreamDeck.Visual

/-! Whether a key image is a document with the title and the subtitle in it: the texts are cut
after they are escaped. -/
namespace Deckhand.StreamDeck
open Lib Lib.Xml

def escapedWidth (c : Char) : Nat := (escapeXml (utf16Char c)).length

/-- The cut after `limit` units falls between two characters, with no carriage return before. -/
def cutsWhole : Nat → List Char → Bool
  | _, [] => true
  | limit, c :: rest =>
    if limit = 0 then true
    else escapedWidth c ≤ limit && c ≠ '\r' && cutsWhole (limit - escapedWidth c) rest

def readSvg (text : JsString) : Option (List Xml.Event) := (ofUtf16 text).bind Xml.read

def textTag : Xml.Name := ['t', 'e', 'x', 't']

def svgTag : Xml.Name := ['s', 'v', 'g']

def rectTag : Xml.Name := ['r', 'e', 'c', 't']

/-- The SVG text is well-formed, and its texts are the beginnings of the title and of the
subtitle. -/
def ShowsTexts (visual : Visual) (title subtitle : String) : Prop :=
  ∃ events t s, readSvg (keySvg visual (js title) (js subtitle)) = some events ∧
    texts textTag events = [t, s] ∧ t <+: title.toList ∧ s <+: subtitle.toList

section Escaping
variable {c : Char} {text : List Char}

theorem escapeUnit_plain {u : UInt16} (large : 0x80 ≤ u.toNat) : escapeUnit u = [u] := by
  have ascii : ([js "<", js ">", js "&", js "'", js "\""].all fun v =>
      v.all fun x => x.toNat < 0x80) = true := by decide +kernel
  have other : ∀ v ∈ [js "<", js ">", js "&", js "'", js "\""], [u] ≠ v := by
    rintro v member rfl
    have small := of_decide_eq_true (List.all_eq_true.mp (List.all_eq_true.mp ascii _ member) u
      (List.mem_singleton_self u))
    omega
  simp only [List.mem_cons, List.not_mem_nil, or_false, forall_eq_or_imp, forall_eq] at other
  obtain ⟨lt, gt, amp, apos, quot⟩ := other
  rw [escapeUnit, if_neg lt, if_neg gt, if_neg amp, if_neg apos, if_neg quot]

theorem units_large (large : 0x80 ≤ c.toNat) : ∀ u ∈ utf16Char c, 0x80 ≤ u.toNat := by
  have valid : c.toNat < 0x110000 := by
    rcases c.valid with h | ⟨-, h⟩
    · exact Nat.lt_trans h (by decide)
    · exact h
  rw [utf16Char]
  split
  · rename_i small
    intro u member
    rw [List.mem_singleton.mp member, toNat_unit small]
    exact large
  · intro u member
    simp only [List.mem_cons, List.not_mem_nil, or_false] at member
    rcases member with rfl | rfl
    · rw [toNat_unit (by omega)]
      omega
    · rw [toNat_unit (by omega)]
      omega

theorem escapeXml_char (c : Char) : escapeXml (utf16Char c) = utf16 (Xml.escape c) := by
  by_cases small : c.toNat < 0x80
  · have all : ∀ n < 0x80, escapeXml (utf16Char (.ofNat n)) = utf16 (Xml.escape (.ofNat n)) := by
      decide +kernel
    have own := all c.toNat small
    rwa [Char.ofNat_toNat] at own
  · have large := units_large (not_lt.mp small)
    have ascii : ∀ entry ∈ predefined, entry.2.toNat < 0x80 := by decide
    have plain : Xml.escape c = [c] := by
      rw [Xml.escape, List.find?_eq_none.mpr]
      intro entry member same
      have low := ascii entry member
      rw [of_decide_eq_true same] at low
      exact small low
    rw [plain, escapeXml, List.flatMap_congr fun u member => escapeUnit_plain (large u member),
      List.flatMap_singleton', utf16, List.flatMap_singleton]

/-- What is left of a character that the cut goes through: a surrogate without the other, or the
beginning of a reference. -/
inductive Broken : JsString → Prop
  | surrogate (u : UInt16) (high : highUnit u = true) : Broken [u]
  | reference (piece : List Char) (c : Char) (cut : Cut piece c) : Broken (utf16 piece)

theorem broken_nonempty {piece : JsString} (broken : Broken piece) : piece ≠ [] := by
  cases broken with
  | surrogate u high => exact List.cons_ne_nil u []
  | reference piece c cut =>
    obtain ⟨name, rfl, -⟩ := cut.shape
    exact List.cons_ne_nil _ _

theorem utf16_ascii (ascii : ∀ d ∈ text, d.toNat < 0x80) :
    utf16 text = text.map fun d => .ofNat d.toNat := by
  induction text with
  | nil => rfl
  | cons d text ih =>
    have small := ascii d List.mem_cons_self
    rw [utf16_cons, ih fun e member => ascii e (List.mem_cons_of_mem _ member), utf16Char,
      if_pos (by omega)]
    rfl

theorem take_broken {limit : Nat} (inside : 0 < limit) (short : limit < escapedWidth c) :
    Broken ((escapeXml (utf16Char c)).take limit) := by
  rw [escapedWidth, escapeXml_char] at short
  rw [escapeXml_char]
  rcases escape_cases c with ⟨plain, -⟩ | ⟨name, written, -, all⟩
  · rw [plain, utf16, List.flatMap_singleton] at short ⊢
    unfold utf16Char at short ⊢
    split at short
    · rw [List.length_singleton] at short
      omega
    · rename_i wide
      have one : limit = 1 := by
        simp only [List.length_cons, List.length_nil] at short
        omega
      have valid : c.toNat < 0x110000 := by
        rcases c.valid with h | ⟨-, h⟩
        · exact Nat.lt_trans h (by decide)
        · exact h
      rw [if_neg wide, one]
      refine .surrogate _ ?_
      simp only [highUnit, toNat_unit
        (show 0xd800 + (c.toNat - 0x10000) / 0x400 < 0x10000 by omega),
        Bool.and_eq_true, decide_eq_true_eq]
      omega
  · have ascii : ∀ d ∈ Xml.escape c, d.toNat < 0x80 := by
      intro d member
      rw [written] at member
      simp only [List.cons_append, List.mem_cons, List.mem_append, List.not_mem_nil,
        or_false] at member
      rcases member with rfl | member | rfl
      · decide
      · exact (all d member).2
      · decide
    rw [utf16_ascii ascii, List.length_map] at short
    have same : (utf16 (Xml.escape c)).take limit = utf16 ((Xml.escape c).take limit) := by
      rw [utf16_ascii ascii, ← List.map_take,
        utf16_ascii fun d member => ascii d (List.mem_of_mem_take member)]
    rw [same]
    refine .reference _ c ⟨List.take_prefix limit _, ?_, ?_⟩
    · intro nothing
      have size := congrArg List.length nothing
      rw [List.length_take, List.length_nil] at size
      omega
    · intro whole
      have size := congrArg List.length whole
      rw [List.length_take] at size
      omega

/-- What the cut leaves: characters that are whole, and perhaps the beginning of one more. -/
theorem take_cases (limit : Nat) (text : List Char) : ∃ kept piece rest, text = kept ++ rest ∧
    (escapeXml (utf16 text)).take limit = utf16 (kept.flatMap Xml.escape) ++ piece ∧
    (piece = [] ∨ Broken piece) ∧
    (cutsWhole limit text = true ↔ piece = [] ∧ '\r' ∉ kept) := by
  induction text generalizing limit with
  | nil => exact ⟨[], [], [], rfl, List.take_nil, .inl rfl, by simp [cutsWhole]⟩
  | cons c text ih =>
    have split : escapeXml (utf16 (c :: text)) =
        escapeXml (utf16Char c) ++ escapeXml (utf16 text) := by
      rw [utf16_cons, escapeXml, List.flatMap_append, escapeXml, escapeXml]
    by_cases end_ : limit = 0
    · refine ⟨[], [], c :: text, rfl, ?_, .inl rfl, ?_⟩
      · rw [end_]
        rfl
      · simp [cutsWhole, end_]
    by_cases fits : escapedWidth c ≤ limit
    · obtain ⟨kept, piece, rest, whole, taken, ends, cut⟩ := ih (limit - escapedWidth c)
      refine ⟨c :: kept, piece, rest, by rw [whole]; rfl, ?_, ends, ?_⟩
      · rw [split, List.take_append, List.take_of_length_le fits]
        change _ ++ List.take (limit - escapedWidth c) _ = _
        rw [taken, List.flatMap_cons, utf16_append, escapeXml_char, List.append_assoc]
      · rw [cutsWhole, if_neg end_, Bool.and_eq_true, cut]
        simp only [fits, decide_true, Bool.true_and, decide_eq_true_eq, List.mem_cons, not_or]
        constructor
        · rintro ⟨other, piece, rest⟩
          exact ⟨piece, Ne.symm other, rest⟩
        · rintro ⟨piece, other, rest⟩
          exact ⟨Ne.symm other, piece, rest⟩
    · have broken := take_broken (Nat.pos_of_ne_zero end_) (not_le.mp fits)
      refine ⟨[], (escapeXml (utf16Char c)).take limit, c :: text, rfl, ?_, .inr broken, ?_⟩
      · rw [split, List.take_append_of_le_length (Nat.le_of_not_le fits)]
        rfl
      · have some' : (escapeXml (utf16Char c)).take limit ≠ [] := by
          intro nothing
          have size := congrArg List.length nothing
          rw [List.length_take, List.length_nil] at size
          unfold escapedWidth at fits
          omega
        simp [cutsWhole, end_, fits, some']

end Escaping

section Document
variable {visual : Visual} {title subtitle : List Char}

def isPlain (c : Char) : Bool := isChar c && c ≠ '\r'

structure Leads (s : Xml.State) (text : List Char) (s' : Xml.State)
    (events : List Xml.Event) : Prop where
  run : Xml.run s text = some (s', events)
  plain : text.all isPlain = true

instance (s : Xml.State) (text : List Char) (s' : Xml.State) (events : List Xml.Event) :
    Decidable (Leads s text s' events) :=
  decidable_of_iff (_ ∧ _) ⟨fun h => ⟨h.1, h.2⟩, fun h => ⟨h.1, h.2⟩⟩

def indent : List Xml.Event := ['\n', ' ', ' ', ' ', ' '].map .char

def inFill : Xml.State :=
  ⟨[svgTag], true, .value rectTag [['f', 'i', 'l', 'l'], ['r', 'x'],
    ['h', 'e', 'i', 'g', 'h', 't'], ['w', 'i', 'd', 't', 'h']] '"'⟩

def inSvg : Xml.State := ⟨[svgTag], true, .content 0⟩

def inText : Xml.State := ⟨[textTag, svgTag], true, .content 0⟩

def inTag : Xml.State := ⟨[textTag, svgTag], true, .markup⟩

def rectEvents : List Xml.Event := [.opened rectTag, .closed rectTag]

theorem leads_append {s s' s'' : Xml.State} {text more : List Char} {events later : List Xml.Event}
    (first : Leads s text s' events) (rest : Leads s' more s'' later) :
    Leads s (text ++ more) s'' (events ++ later) := by
  constructor
  · rw [run_piece first.run, rest.run]
    rfl
  · rw [List.all_append, first.plain, rest.plain]
    rfl

theorem leads_literal {s s' : Xml.State} {text : String} {l : List Char} {events : List Xml.Event}
    (same : String.ofList l = text) (leads : Leads s l s' events) :
    Leads s text.toList s' events := by
  rw [← same, String.toList_ofList]
  exact leads

theorem tag_literal {s s' : Xml.State} {text : String} {l : List Char} {events : List Xml.Event}
    (same : String.ofList l = text) (first : l.head? = some '<')
    (leads : Leads s l.tail s' events) :
    ∃ tag, text.toList = '<' :: tag ∧ Leads s tag s' events := by
  rw [← same, String.toList_ofList]
  exact ⟨l.tail, List.eq_cons_of_mem_head? first, leads⟩

theorem leads_opening : Leads Xml.start svgOpening.toList inFill (.opened svgTag :: indent) :=
  leads_literal rfl (by decide +kernel)

theorem leads_color (visual : Visual) : Leads inFill visual.color.toList inFill [] := by
  cases visual <;> exact leads_literal rfl (by decide +kernel)

theorem leads_filled : Leads inFill svgFilled.toList inSvg (rectEvents ++ indent) :=
  leads_literal rfl (by decide +kernel)

theorem leads_border (visual : Visual) : Leads inSvg visual.border.toList inSvg
    (if visual = .danger then rectEvents else []) := by
  cases visual <;> exact leads_literal rfl (by decide +kernel)

set_option maxRecDepth 2000 in
theorem leads_bordered :
    Leads inSvg svgBordered.toList inText (indent ++ [.opened textTag]) :=
  leads_literal rfl (by decide +kernel)

set_option maxRecDepth 2000 in
theorem titled_shape : ∃ tag, svgTitled.toList = '<' :: tag ∧ Leads inTag
    tag inText (.closed textTag :: indent ++ [.opened textTag]) :=
  tag_literal rfl rfl (by decide +kernel)

theorem subtitled_shape : ∃ tag, svgSubtitled.toList = '<' :: tag ∧
    Leads inTag tag ⟨[], true, .content 0⟩
      (.closed textTag :: ['\n', ' ', ' '].map .char ++ [.closed svgTag]) :=
  tag_literal rfl rfl (by decide +kernel)

def svgHead (visual : Visual) : List Char :=
  svgOpening.toList ++ visual.color.toList ++ svgFilled.toList ++ visual.border.toList ++
    svgBordered.toList

def beforeTitle (visual : Visual) : List Xml.Event :=
  .opened svgTag :: indent ++ [] ++ (rectEvents ++ indent) ++
    (if visual = .danger then rectEvents else []) ++ indent

def afterTitle : List Xml.Event := .closed textTag :: indent

def afterSubtitle : List Xml.Event :=
  .closed textTag :: ['\n', ' ', ' '].map .char ++ [.closed svgTag]

theorem leads_head (visual : Visual) :
    Leads Xml.start (svgHead visual) inText (beforeTitle visual ++ [.opened textTag]) := by
  have leads := leads_append (leads_append (leads_append (leads_append leads_opening
    (leads_color visual)) leads_filled) (leads_border visual)) leads_bordered
  rwa [← List.append_assoc] at leads

theorem keySvg_parts (visual : Visual) (title subtitle : String) :
    keySvg visual (js title) (js subtitle) = utf16 (svgHead visual) ++
      ((escapeXml (utf16 title.toList)).take 12 ++ (utf16 svgTitled.toList ++
        ((escapeXml (utf16 subtitle.toList)).take 14 ++ utf16 svgSubtitled.toList))) := by
  simp only [keySvg, svgHead, js, utf16_append, List.append_assoc]

variable {s s' : Xml.State} {text more kept : List Char} {events : List Xml.Event}

theorem leads_then (part : Leads s text s' events) : Xml.run s (endLines false (text ++ more)) =
    (Xml.run s' (endLines false more)).map fun r => (r.1, events ++ r.2) := by
  have plain : '\r' ∉ text := by
    intro member
    exact absurd (List.all_eq_true.mp part.plain '\r' member) (by decide)
  rw [endLines_free plain, run_piece part.run]

theorem inText_content : inText.InContent := ⟨⟨0, rfl⟩, List.cons_ne_nil _ _⟩

theorem run_field (part : Leads inTag text s' events) :
    Xml.run inText (endLines false (kept.flatMap Xml.escape ++ '<' :: (text ++ more))) =
      (Xml.run s' (endLines false more)).map fun r =>
        (r.1, (endLines false kept).map .char ++ (events ++ r.2)) := by
  rw [run_text inText_content]
  change Option.map _ (Xml.run inTag _) = _
  rw [leads_then part, Option.map_map]
  rfl

def imageEvents (visual : Visual) (t s : List Char) : List Xml.Event :=
  (beforeTitle visual ++ [.opened textTag]) ++ (t.map .char ++ ((afterTitle ++ [.opened textTag]) ++
    (s.map .char ++ (afterSubtitle ++ []))))

theorem texts_image (visual : Visual) (t s : List Char) :
    texts textTag (imageEvents visual t s) = [t, s] := by
  have before : ∀ event ∈ beforeTitle visual, event ≠ .opened textTag := by
    cases visual <;> decide
  have between : ∀ event ∈ indent, event ≠ .opened textTag := by decide
  let ending : List Xml.Event := ['\n', ' ', ' '].map .char ++ [.closed svgTag]
  have rest : texts textTag ending = [] := by decide
  have second : texts textTag (.opened textTag :: (s.map .char ++ .closed textTag :: ending)) =
      s :: texts textTag ending := texts_element (.closed textTag) rfl Xml.Event.noConfusion
  have first : texts textTag (.opened textTag :: (t.map .char ++ .closed textTag ::
      (indent ++ .opened textTag :: (s.map .char ++ .closed textTag :: ending)))) = t :: _ :=
    texts_element (.closed textTag) rfl Xml.Event.noConfusion
  rw [texts_skip between, second, rest] at first
  rw [imageEvents, List.append_assoc, texts_skip before, afterTitle, afterSubtitle]
  simpa [ending] using first

theorem run_image (kept kept' : List Char) : Xml.run Xml.start (endLines false (svgHead visual ++
      (kept.flatMap Xml.escape ++
        (svgTitled.toList ++ (kept'.flatMap Xml.escape ++ svgSubtitled.toList))))) =
    some (⟨[], true, .content 0⟩,
      imageEvents visual (endLines false kept) (endLines false kept')) := by
  obtain ⟨tag, titled, next⟩ := titled_shape
  obtain ⟨tag', subtitled, last⟩ := subtitled_shape
  have ends : Xml.run inText (endLines false (kept'.flatMap Xml.escape ++ '<' :: (tag' ++ []))) =
      _ :=
    run_field last
  rw [List.append_nil] at ends
  rw [titled, subtitled, leads_then (leads_head visual), List.cons_append, run_field next, ends]
  rfl

theorem run_title_cut {piece more : List Char} {c : Char} (cut : Cut piece c) :
    Xml.run Xml.start (endLines false (svgHead visual ++ (kept.flatMap Xml.escape ++
      (piece ++ (svgTitled.toList ++ more))))) = none := by
  obtain ⟨tag, titled, -⟩ := titled_shape
  rw [titled, leads_then (leads_head visual), List.cons_append, run_text_cut inText_content cut]
  rfl

theorem run_subtitle_cut {piece kept' : List Char} {c : Char} (cut : Cut piece c) :
    Xml.run Xml.start (endLines false
      (svgHead visual ++ (kept.flatMap Xml.escape ++ (svgTitled.toList ++
      (kept'.flatMap Xml.escape ++ (piece ++ svgSubtitled.toList)))))) = none := by
  obtain ⟨tag, titled, next⟩ := titled_shape
  obtain ⟨tag', subtitled, -⟩ := subtitled_shape
  rw [titled, subtitled, leads_then (leads_head visual), List.cons_append, run_field next,
    run_text_cut inText_content cut]
  rfl

theorem title_broken {piece rest : JsString} (broken : Broken piece) :
    readSvg (utf16 (svgHead visual) ++ (utf16 (kept.flatMap Xml.escape) ++ piece ++
      (utf16 svgTitled.toList ++ rest))) = none := by
  rw [readSvg, ofUtf16_append, List.append_assoc, ofUtf16_append]
  cases broken with
  | surrogate u high =>
    obtain ⟨tag, titled, -⟩ := titled_shape
    have next : utf16 svgTitled.toList = 0x3c :: utf16 tag := by
      rw [titled, utf16_cons]
      rfl
    rw [next]
    change Option.bind (((ofUtf16 (u :: 0x3c :: (utf16 tag ++ rest))).map _).map _) Xml.read = none
    rw [ofUtf16_alone high (by decide)]
    rfl
  | reference piece c cut =>
    rw [ofUtf16_append, ofUtf16_append]
    cases ofUtf16 rest with
    | none => rfl
    | some more =>
      simp only [Option.map_some, Option.bind_some]
      exact read_none (run_title_cut cut)

theorem subtitle_broken {piece : JsString} {kept' : List Char} (broken : Broken piece) :
    readSvg (utf16 (svgHead visual) ++
      (utf16 (kept.flatMap Xml.escape) ++ (utf16 svgTitled.toList ++
      (utf16 (kept'.flatMap Xml.escape) ++ piece ++ utf16 svgSubtitled.toList)))) = none := by
  rw [readSvg, ofUtf16_append, ofUtf16_append, ofUtf16_append, List.append_assoc, ofUtf16_append]
  cases broken with
  | surrogate u high =>
    obtain ⟨tag, subtitled, -⟩ := subtitled_shape
    have next : utf16 svgSubtitled.toList = 0x3c :: utf16 tag := by
      rw [subtitled, utf16_cons]
      rfl
    rw [next]
    change Option.bind (((((ofUtf16 (u :: 0x3c :: utf16 tag)).map _).map _).map _).map _) Xml.read =
      none
    rw [ofUtf16_alone high (by decide)]
    rfl
  | reference piece c cut =>
    rw [ofUtf16_append, ofUtf16_utf16]
    simp only [Option.map_some, Option.bind_some]
    exact read_none (run_subtitle_cut cut)

theorem plain_isChar {c : Char} (plain : isPlain c = true) : isChar c = true :=
  (Bool.and_eq_true_iff.mp plain).1

theorem literals_isChar (visual : Visual) {c : Char}
    (member : c ∈ svgHead visual ∨ c ∈ svgTitled.toList ∨
    c ∈ svgSubtitled.toList) : isChar c = true := by
  obtain ⟨tag, titled, next⟩ := titled_shape
  obtain ⟨tag', subtitled, last⟩ := subtitled_shape
  have less : isChar '<' = true := by decide
  rw [titled, subtitled] at member
  rcases member with member | member | member
  · exact plain_isChar (List.all_eq_true.mp (leads_head visual).plain c member)
  · rcases List.mem_cons.mp member with rfl | member
    · exact less
    · exact plain_isChar (List.all_eq_true.mp next.plain c member)
  · rcases List.mem_cons.mp member with rfl | member
    · exact less
    · exact plain_isChar (List.all_eq_true.mp last.plain c member)

theorem escaped_isChar {c : Char} (legal : ∀ c ∈ kept, isChar c = true)
    (member : c ∈ kept.flatMap Xml.escape) : isChar c = true := by
  obtain ⟨d, known, own⟩ := List.mem_flatMap.mp member
  exact escape_isChar (legal d known) c own

theorem readSvg_whole {kept' : List Char} (legal : ∀ c ∈ kept, isChar c = true)
    (legal' : ∀ c ∈ kept', isChar c = true) :
    readSvg (utf16 (svgHead visual) ++
      (utf16 (kept.flatMap Xml.escape) ++ (utf16 svgTitled.toList ++
      (utf16 (kept'.flatMap Xml.escape) ++ utf16 svgSubtitled.toList)))) =
        some (imageEvents visual (endLines false kept) (endLines false kept')) := by
  rw [readSvg, ofUtf16_append, ofUtf16_append, ofUtf16_append, ofUtf16_append, ofUtf16_utf16]
  simp only [Option.map_some, Option.bind_some]
  refine read_eq_some.mpr ⟨?_, _, run_image kept kept', rfl⟩
  rw [List.all_eq_true]
  intro c member
  simp only [List.mem_append] at member
  rcases member with member | member | member | member | member
  · exact literals_isChar visual (.inl member)
  · exact escaped_isChar legal member
  · exact literals_isChar visual (.inr (.inl member))
  · exact escaped_isChar legal' member
  · exact literals_isChar visual (.inr (.inr member))

end Document

/-- The SVG text of a key image is well-formed, with the beginnings of the two texts in it, exactly
if both are cut between characters and have no carriage return before the cut. -/
theorem key_image_iff (visual : Visual) (title subtitle : String)
    (legal : ∀ c ∈ title.toList, isChar c = true)
    (legal' : ∀ c ∈ subtitle.toList, isChar c = true) :
    ShowsTexts visual title subtitle ↔
      cutsWhole 12 title.toList = true ∧ cutsWhole 14 subtitle.toList = true := by
  obtain ⟨kept, piece, rest, whole, taken, ends, cut⟩ := take_cases 12 title.toList
  obtain ⟨kept', piece', rest', whole', taken', ends', cut'⟩ := take_cases 14 subtitle.toList
  have shown := keySvg_parts visual title subtitle
  rw [taken, taken'] at shown
  rw [ShowsTexts, cut, cut', shown]
  rcases ends with rfl | broken
  · rcases ends' with rfl | broken'
    · rw [whole] at legal
      rw [whole'] at legal'
      rw [List.append_nil, List.append_nil, readSvg_whole
        (fun c member => legal c (List.mem_append_left _ member))
        (fun c member => legal' c (List.mem_append_left _ member)), whole, whole']
      constructor
      · rintro ⟨events, t, s, found, nodes, first, second⟩
        rw [← Option.some.inj found, texts_image] at nodes
        obtain ⟨rfl, rfl⟩ : endLines false kept = t ∧
            endLines false kept' = s := by simpa using nodes
        exact ⟨⟨rfl, endLines_prefix_iff.mp first⟩, rfl, endLines_prefix_iff.mp second⟩
      · rintro ⟨⟨-, plain⟩, -, plain'⟩
        exact ⟨_, _, _, rfl, texts_image _ _ _, endLines_prefix_iff.mpr plain,
          endLines_prefix_iff.mpr plain'⟩
    · rw [List.append_nil, subtitle_broken broken']
      constructor
      · rintro ⟨events, t, s, found, -⟩
        cases found
      · rintro ⟨-, rfl, -⟩
        cases broken_nonempty broken' rfl
  · rw [title_broken broken]
    constructor
    · rintro ⟨events, t, s, found, -⟩
      cases found
    · rintro ⟨⟨rfl, -⟩, -⟩
      cases broken_nonempty broken rfl

/-- A title that fits is shown. -/
theorem key_image_iff_fits : ShowsTexts .danger "CONFIRM?" "door" := by
  have legal : ∀ c ∈ "CONFIRM?".toList, isChar c = true :=
    List.all_eq_true.mp (by decide +kernel)
  have legal' : ∀ c ∈ "door".toList, isChar c = true := List.all_eq_true.mp (by decide +kernel)
  exact (key_image_iff .danger _ _ legal legal').mpr (by decide +kernel)

/-- The cut goes through the reference of an ampersand. -/
theorem key_image_cut : (∀ c ∈ "Backups & Sync".toList, isChar c = true) ∧
    (∀ c ∈ "ok".toList, isChar c = true) ∧
    readSvg (keySvg .healthy (js "Backups & Sync") (js "ok")) = none ∧
    ¬ ShowsTexts .healthy "Backups & Sync" "ok" := by
  have taken : (escapeXml (utf16 "Backups & Sync".toList)).take 12 =
      utf16 (['B', 'a', 'c', 'k', 'u', 'p', 's', ' '].flatMap Xml.escape) ++
        utf16 ['&', 'a', 'm', 'p'] := by decide +kernel
  have cut : Cut ['&', 'a', 'm', 'p'] '&' := ⟨by decide, by decide, by decide⟩
  have nothing : readSvg (keySvg .healthy (js "Backups & Sync") (js "ok")) = none := by
    rw [keySvg_parts, taken]
    exact title_broken (.reference _ '&' cut)
  refine ⟨List.all_eq_true.mp (by decide +kernel), List.all_eq_true.mp (by decide +kernel),
    nothing, ?_⟩
  rintro ⟨events, t, s, found, -⟩
  rw [nothing] at found
  cases found

end Deckhand.StreamDeck
