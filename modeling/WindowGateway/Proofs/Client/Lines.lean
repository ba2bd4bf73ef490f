import WindowGateway.Proofs.Client.Documents
import WindowGateway.Proofs.Json.Lines
import WindowGateway.Proofs.Text.Lines

/-! Reading JSON lines: what a text gives, which line is named where it gives nothing, and that
documents printed one to a line are read back, whatever blank lines stand between them. -/

namespace WindowGateway

open Json (Document LineFault LineHolds FirstBadLine filledLines parseLines)
open Text (IsLineEnd LinesOf)

/-- The text holds the documents, each printed on a line of its own, and any number of blank lines
before, between and after them. -/
inductive Printed : List Document → String → Prop
  | nil : Printed [] ""
  | blank {docs : List Document} {text line lineEnd : String} (more : Printed docs text)
      (blank : Text.allBlank line = true) (whole : '\n' ∉ line.toList) (ends : IsLineEnd lineEnd) :
    Printed docs (line ++ lineEnd ++ text)
  | document {docs : List Document} {text lineEnd : String} (more : Printed docs text)
      (d : Document) (ends : IsLineEnd lineEnd) :
    Printed (d :: docs) (d.render ++ lineEnd ++ text)

theorem lineHolds_render {d : Document} (hd : Readable d) : LineHolds d.render d := by
  rw [LineHolds, Document.bytes_render]
  exact Document.parse_bytes hd.floatFree hd.depth

/-- The lines of a printed text that are not blank are the texts of its documents. -/
theorem Printed.linesOf {docs : List Document} {text : String} (h : Printed docs text) :
    ∃ lines, LinesOf text.toList lines ∧ filledLines lines = docs.map Document.render := by
  induction h with
  | nil => exact ⟨[], .none, rfl⟩
  | @blank docs text line lineEnd more hblank whole ends ih =>
    obtain ⟨lines, hlines, hfilled⟩ := ih
    obtain ⟨kept, hkept, hline⟩ := hlines.cons whole ends
    have hrest : Text.allBlank (String.ofList kept) = true := by
      rw [Text.allBlank] at hblank ⊢
      rw [String.toList_ofList]
      rcases hline with rfl | hline
      · exact hblank
      · rw [hline, List.all_append, Bool.and_eq_true] at hblank
        exact hblank.1
    exact ⟨_, hkept, (Json.filledLines_blank hrest).trans hfilled⟩
  | @document docs text lineEnd more d ends ih =>
    obtain ⟨lines, hlines, hfilled⟩ := ih
    have hprintable := d.printable_render
    obtain ⟨kept, hkept, hline⟩ := hlines.cons (hprintable.not_mem (by decide)) ends
    have hwhole : String.ofList kept = d.render := by
      rcases hline with rfl | hline
      · exact String.ofList_toList
      · have hreturn : '\r' ∉ d.render.toList := hprintable.not_mem (by decide)
        rw [hline] at hreturn
        exact absurd (List.mem_append_right _ (List.mem_singleton_self _)) hreturn
    rw [hwhole] at hkept
    refine ⟨_, hkept, ?_⟩
    rw [Json.filledLines_filled d.allBlank_render, hfilled, List.map_cons]

theorem Printed.parseLines {docs : List Document} {text : String} (h : Printed docs text)
    (hdocs : ∀ d ∈ docs, Readable d) : Json.parseLines text = .ok docs := by
  obtain ⟨lines, hlines, hfilled⟩ := h.linesOf
  rw [Json.parseLines, Text.linesOf_iff.mp hlines, Json.parseNumbered_eq_ok_iff, hfilled,
    List.forall₂_map_left_iff, List.forall₂_same]
  exact fun d hd => lineHolds_render (hdocs d hd)

/-- A text gives the documents of its lines, blank ones apart, or names the first line that is
neither blank nor a document by its number among all lines. Printed documents are read back. -/
theorem parseLines_documents (text : String) :
    LinesOf text.toList (Text.lines text) ∧
    (∀ docs, parseLines text = .ok docs ↔
      List.Forall₂ LineHolds (filledLines (Text.lines text)) docs) ∧
    (∀ fault, parseLines text = .error fault ↔ FirstBadLine 1 (Text.lines text) fault) ∧
    (∀ fault, (Client.SendFault.line fault).failure.message =
      s!"line {fault.number} is not JSON") ∧
    ∀ docs, Printed docs text → (∀ d ∈ docs, Readable d) → parseLines text = .ok docs := by
  refine ⟨Text.linesOf_iff.mpr rfl, fun docs => Json.parseNumbered_eq_ok_iff,
    fun fault => Json.parseNumbered_eq_error_iff, fun fault => rfl, fun docs h hdocs => ?_⟩
  exact h.parseLines hdocs

/-- A text with a line break in it and a list, printed with different ends and a line of blanks
between them; and a text whose third line is the first bad one. -/
theorem parseLines_documents_mixed :
    let d := Document.ofString "a\nb"
    let e := Document.ofItems [.null]
    let text := d.render ++ "\r\n" ++ ("\t\u0085\r" ++ "\n" ++ (e.render ++ "\n" ++ ""))
    let bad := "\n[]\r\n\x7boops\n]"
    let fault : LineFault := ⟨3, ⟨.keyNotString, 1, 2⟩⟩
    Printed [d, e] text ∧ (∀ u ∈ [d, e], Readable u) ∧ parseLines text = .ok [d, e] ∧
      FirstBadLine 1 (Text.lines bad) fault ∧ parseLines bad = .error fault := by
  intro d e text bad fault
  have hprinted : Printed [d, e] text :=
    .document (.blank (.document .nil e (.inl rfl)) (by decide) (by decide) (.inl rfl)) d (.inr rfl)
  have hreadable : ∀ u ∈ [d, e], Readable u := by decide +kernel
  have hlines : Text.lines bad = ["", "[]"] ++ "\x7boops" :: ["]"] := by decide +kernel
  have hfirst : ∀ l ∈ ["", "[]"], Text.allBlank l = true ∨ ∃ u, LineHolds l u := by
    intro l hl
    rw [List.mem_cons, List.mem_singleton] at hl
    rcases hl with rfl | rfl
    · exact .inl rfl
    · exact .inr ⟨.ofItems [], rfl⟩
  have hbad : FirstBadLine 1 (Text.lines bad) fault := .mk hlines (by decide) rfl hfirst
  obtain ⟨_, _, herror, _⟩ := parseLines_documents bad
  exact ⟨hprinted, hreadable, (parseLines_documents text).2.2.2.2 _ hprinted hreadable, hbad,
    (herror fault).mpr hbad⟩

end WindowGateway
