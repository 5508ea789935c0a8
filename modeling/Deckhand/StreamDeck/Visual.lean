import Deckhand.Lib.Base64
import Deckhand.Lib.Utf16

namespace Deckhand.StreamDeck
open Lib

inductive Visual where
  | healthy | info | ai | running | stale | failed | offline | danger
  deriving DecidableEq

structure Picture where
  visual : Visual
  title : String
  subtitle : String

/-- `COLORS` -/
def Visual.color : Visual → String
  | .healthy => "#1f8a3b"
  | .info => "#1f5fd0"
  | .ai => "#7a3fd0"
  | .running => "#0f9fb5"
  | .stale => "#c98a12"
  | .failed => "#c0392b"
  | .offline => "#4a4a4a"
  | .danger => "#6e0f0f"

def Visual.border (visual : Visual) : String :=
  if visual = .danger then
    r##"<rect x="1" y="1" width="70" height="70" fill="none" stroke="#ff5b5b" stroke-width="2"/>"##
  else ""

def escapeUnit (c : UInt16) : JsString :=
  if [c] = js "<" then js "&lt;"
  else if [c] = js ">" then js "&gt;"
  else if [c] = js "&" then js "&amp;"
  else if [c] = js "'" then js "&apos;"
  else if [c] = js "\"" then js "&quot;"
  else [c]

def escapeXml (text : JsString) : JsString := text.flatMap escapeUnit

def svgOpening : String :=
  r##"<svg xmlns="http://www.w3.org/2000/svg" width="72" height="72">
    <rect width="72" height="72" rx="8" fill=""##

def svgFilled : String :=
  r##""/>
    "##

def svgBordered : String :=
  r##"
    <text x="36" y="34" font-family="Helvetica, Arial, sans-serif" font-size="14" font-weight="600"
          fill="#ffffff" text-anchor="middle">"##

def svgTitled : String :=
  r##"</text>
    <text x="36" y="52" font-family="Helvetica, Arial, sans-serif" font-size="11"
          fill="#e8e8e8" text-anchor="middle">"##

def svgSubtitled : String :=
  r##"</text>
  </svg>"##

def keySvg (visual : Visual) (title subtitle : JsString) : JsString :=
  let t := (escapeXml title).take 12
  let s := (escapeXml subtitle).take 14
  js svgOpening ++ js visual.color ++ js svgFilled ++ js visual.border ++ js svgBordered ++ t ++
    js svgTitled ++ s ++ js svgSubtitled

/-- `Buffer.from`: UTF-8, with a replacement character for each surrogate that is alone. -/
def bufferFrom (text : JsString) : List UInt8 :=
  encodeUtf8 ((scalars text).map fun c => codePoint (c.getD (.ofNat 0xfffd)))

/-- `toString("base64")`, whose last two digits are other than in a URL. -/
def bufferToBase64 (bytes : List UInt8) : PyStr :=
  (urlsafeB64encode bytes).map fun c =>
    if c = codePoint '-' then codePoint '+' else if c = codePoint '_' then codePoint '/' else c

def keyImage (visual : Visual) (title : JsString) (subtitle : JsString := []) : PyStr :=
  pyStr "data:image/svg+xml;base64," ++ bufferToBase64 (bufferFrom (keySvg visual title subtitle))

def Picture.image (picture : Picture) : PyStr :=
  keyImage picture.visual (js picture.title) (js picture.subtitle)

/-- An observation that is older than it says it may be is stale. `dateParse` is `Date.parse`. -/
def statusVisual (dateParse : String → Option Int) (now : Int) (state observedAt : String)
    (staleAfterSeconds : Int) : Visual :=
  if ∃ observed ∈ dateParse observedAt, staleAfterSeconds * 1000 < now - observed then .stale
  else if state ∈ ["healthy", "running", "active", "ok"] then .healthy
  else if state ∈ ["degraded", "warning"] then .stale
  else if state ∈ ["failed", "error", "denied"] then .failed
  else if state ∈ ["unknown", "unavailable", "unconfigured"] then .offline
  else .info

end Deckhand.StreamDeck
