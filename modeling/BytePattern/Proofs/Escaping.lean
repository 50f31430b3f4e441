/-
A replacement text with a backslash before every dollar sign stands for the text itself, whatever
is exchanged for it.
-/
import BytePattern.Proofs.References

namespace BytePattern

namespace Bytes

/-- Spans in the rest of a haystack, moved one to the right, leave its first byte as it is. -/
theorem splice_cons_shift (byte : UInt8) (rest : Bytes) (edits : List (Span × Bytes)) :
    splice (byte :: rest) 0 (edits.map fun edit => (edit.1.shift 1, edit.2)) =
      byte :: splice rest 0 edits := by
  cases edits with
  | nil => rfl
  | cons edit edits =>
      have hrest := splice_shift (byte :: rest) 1 edit.1.stop edits
      rw [List.map_cons, splice, splice, Span.shift_stop, hrest]
      rfl

/-- Exchanging every span for one text puts it between the gaps. -/
theorem splice_const (haystack text : Bytes) (last : Nat) (spans : List Span) :
    haystack.splice last (spans.map fun span => (span, text)) =
      List.intercalate text (haystack.gaps last spans) := by
  induction spans generalizing last with
  | nil => simp [splice, gaps]
  | cons span spans ih =>
      have hne : haystack.gaps span.stop spans ≠ [] := by
        apply List.ne_nil_of_length_pos
        rw [length_gaps]
        exact Nat.succ_pos _
      rw [List.map_cons, splice, gaps, List.intercalate_cons_of_ne_nil hne, ih, List.append_assoc]

end Bytes

namespace Reference

/-- A text with its references exchanged for what they stand for. -/
def fill (value : ReferenceKind → Bytes) (text : Bytes) : Bytes :=
  text.splice 0 ((read text).map fun reference => (reference.span, value reference.kind))

section Fill

variable (value : ReferenceKind → Bytes) {text rest : Bytes} {byte : UInt8} {kind : ReferenceKind}
  {length : Nat}

theorem map_shift_edits (references : List Reference) (offset : Nat) :
    (references.map (·.shift offset)).map
        (fun reference => (reference.span, value reference.kind)) =
      (references.map fun reference => (reference.span, value reference.kind)).map
        fun edit => (edit.1.shift offset, edit.2) := by
  rw [List.map_map, List.map_map]
  rfl

theorem fill_nil : fill value [] = [] := by
  rw [fill, read_nil]
  rfl

theorem fill_of_begins (hbegins : Begins text kind length) :
    fill value text = value kind ++ fill value (text.drop length) := by
  have hrest := text.splice_shift length 0
    ((read (text.drop length)).map fun reference => (reference.span, value reference.kind))
  rw [Nat.zero_add] at hrest
  rw [fill, read_of_begins hbegins, List.map_cons, map_shift_edits, Bytes.splice, hrest]
  rfl

theorem fill_of_passed (hlength : lengthAt (byte :: rest) = none) :
    fill value (byte :: rest) = byte :: fill value rest := by
  rw [fill, read_of_passed hlength, map_shift_edits, Bytes.splice_cons_shift]
  rfl

end Fill

end Reference

namespace Template

/-- The text with a backslash before every dollar sign. -/
def escape : Bytes → Bytes
  | [] => []
  | byte :: rest =>
    if byte = ascii '$' then ascii '\\' :: ascii '$' :: escape rest else byte :: escape rest

section Escape

variable {byte : UInt8}

theorem escape_dollar (rest : Bytes) :
    escape (ascii '$' :: rest) = ascii '\\' :: ascii '$' :: escape rest :=
  if_pos rfl

theorem escape_other (hbyte : byte ≠ ascii '$') (rest : Bytes) :
    escape (byte :: rest) = byte :: escape rest :=
  if_neg hbyte

/-- No escaped text starts with a dollar sign, so that a backslash before it stands for itself. -/
theorem head?_escape (text : Bytes) : (escape text).head? ≠ some (ascii '$') := by
  cases text with
  | nil => exact nofun
  | cons byte rest =>
      by_cases hbyte : byte = ascii '$'
      · rw [hbyte, escape_dollar, List.head?_cons]
        decide
      · rw [escape_other hbyte]
        exact fun hhead => hbyte (Option.some.inj hhead)

theorem lengthAt_escape (hbyte : byte ≠ ascii '$') (text : Bytes) :
    Reference.lengthAt (byte :: escape text) = none := by
  by_cases hbackslash : byte = ascii '\\'
  · rw [hbackslash, Reference.lengthAt_backslash, if_neg (head?_escape text)]
  · exact Reference.lengthAt_other hbackslash hbyte _

/-- The only references of an escaped text are the dollar signs. -/
theorem kind_of_mem_read_escape (text : Bytes) :
    ∀ reference ∈ Reference.read (escape text), reference.kind = .dollar := by
  induction text with
  | nil =>
      rw [escape, Reference.read_nil]
      simp
  | cons byte rest ih =>
      have hshift (offset : Nat) :
          ∀ reference ∈ (Reference.read (escape rest)).map (·.shift offset),
            reference.kind = .dollar := by
        intro reference hmem
        obtain ⟨earlier, hearlier, rfl⟩ := List.mem_map.mp hmem
        exact ih earlier hearlier
      by_cases hbyte : byte = ascii '$'
      · rw [hbyte, escape_dollar, Reference.read_of_begins (.dollar _)]
        exact List.forall_mem_cons.mpr ⟨rfl, hshift 2⟩
      · rw [escape_other hbyte, Reference.read_of_passed (lengthAt_escape hbyte rest)]
        exact hshift 1

/-- With its references read as dollar signs an escaped text is the text itself. -/
theorem fill_escape {value : ReferenceKind → Bytes} (hdollar : value .dollar = [ascii '$'])
    (text : Bytes) : Reference.fill value (escape text) = text := by
  induction text with
  | nil => exact Reference.fill_nil value
  | cons byte rest ih =>
      by_cases hbyte : byte = ascii '$'
      · rw [hbyte, escape_dollar, Reference.fill_of_begins value (.dollar _), hdollar]
        exact congrArg (ascii '$' :: ·) ih
      · rw [escape_other hbyte, Reference.fill_of_passed value (lengthAt_escape hbyte rest), ih]

theorem expansion_parse (text haystack : Bytes) (caps : Captures) :
    (parse text).expansion haystack caps = Reference.fill (expandKind haystack caps) text := by
  rw [expansion, parse_references]
  rfl

theorem expansion_parse_escape (text haystack : Bytes) (caps : Captures) :
    (parse (escape text)).expansion haystack caps = text := by
  rw [expansion_parse, fill_escape rfl]

/-- No group is asked for beside the whole match. -/
theorem wantGroups_parse_escape (text : Bytes) : (parse (escape text)).wantGroups = 1 := by
  have hgroups : (parse (escape text)).groups = [] := by
    rw [groups, parse_references, List.filterMap_eq_nil_iff]
    intro reference hmem
    rw [kind_of_mem_read_escape text reference hmem]
    rfl
  rw [wantGroups, hgroups]

end Escape

/-- A replacement that stands for a text, whatever it is put in for. -/
structure Literal (template : Template) (text : Bytes) : Prop where
  expanded : ∀ haystack caps buffer, template.expand haystack caps buffer = buffer ++ text
  /-- A substitution joins the pieces between the matches, with the same searches. -/
  joined : ∀ pattern haystack, Substitution.exec ⟨pattern, template⟩ haystack =
    (Pattern.split pattern haystack).map (List.intercalate text)

/-- An escaped text stands for the text. -/
theorem literal_parse_escape (text : Bytes) : (parse (escape text)).Literal text := by
  constructor
  · intro haystack caps buffer
    rw [expand, expansion_parse_escape]
  · intro pattern haystack
    rw [Substitution.exec, wantGroups_parse_escape, Pattern.split]
    simp only [expansion_parse_escape]
    have hjoined (found : List Captures) :
        haystack.splice 0 (found.map fun caps => (caps.range, text)) =
          List.intercalate text (haystack.gaps 0 (found.map Captures.range)) := by
      rw [← Bytes.splice_const, List.map_map]
      rfl
    simp only [hjoined]
    rfl

end Template

end BytePattern
