/-
The default engine compiles the pattern of references to a program that finds what is read as a
reference, and takes as many digits as there are.
-/
import BytePattern.Proofs.Exploring
import BytePattern.Proofs.OuterGroups
import BytePattern.Proofs.References
import BytePattern.Proofs.Refusal
import BytePattern.Session

namespace BytePattern

namespace Reference

/-- A row of digits, as long as can be. -/
def digitRow : Regex :=
  .times (.ofClass (.bytes ⟨[(48, 57)]⟩)) 1 none true

/-- The expression of references. -/
def regex : Regex :=
  .alternation [.literal [92, 36], .concat [.literal [36], digitRow],
    .concat [.literal [36, 123], digitRow, .literal [125]]]

section Parse

/-- The digits in brackets. -/
def digitBracket : Node :=
  .bracket false (.namedClass .digit false)

/-- The pattern of references, taken apart. -/
def node : Node :=
  .alternation [.concat [.literal ⟨'\\', false⟩, .literal ⟨'$', false⟩],
    .concat [.literal ⟨'$', false⟩, .repetition digitBracket 1 none true],
    .concat [.literal ⟨'$', false⟩, .literal ⟨'\x7b', false⟩, .repetition digitBracket 1 none true,
      .literal ⟨'\x7d', false⟩]]

/-- The reading before the digits of a bare number. -/
def beforeBare : Reading where
  level :=
    { branches := [.concat [.literal ⟨'\\', false⟩, .literal ⟨'$', false⟩]]
      items := [.literal ⟨'$', false⟩] }

/-- The reading before the digits of a number in braces. -/
def beforeBraced : Reading where
  level :=
    { branches := [.concat [.literal ⟨'$', false⟩, .repetition digitBracket 1 none true],
        .concat [.literal ⟨'\\', false⟩, .literal ⟨'$', false⟩]]
      items := [.literal ⟨'\x7b', false⟩, .literal ⟨'$', false⟩] }

theorem parse_pattern :
    Regex.parse pattern.text (.ofFlags pattern.flags false) = .ok regex := by
  have hstart : Reading.run {} pattern.text.toList =
      beforeBare.run "[[:digit:]]+|\\$\\\x7b[[:digit:]]+\\\x7d".toList := by
    cbv
  have hbare : beforeBare.step '[' "[:digit:]]+|\\$\\\x7b[[:digit:]]+\\\x7d".toList =
      .ok (beforeBare.push digitBracket, "+|\\$\\\x7b[[:digit:]]+\\\x7d".toList) := by
    cbv
  have hbetween : (beforeBare.push digitBracket).run "+|\\$\\\x7b[[:digit:]]+\\\x7d".toList =
      beforeBraced.run "[[:digit:]]+\\\x7d".toList := by
    cbv
  have hbraced : beforeBraced.step '[' "[:digit:]]+\\\x7d".toList =
      .ok (beforeBraced.push digitBracket, "+\\\x7d".toList) := by
    cbv
  have hend : (beforeBraced.push digitBracket).run "+\\\x7d".toList = .ok node := by
    cbv
  have hrun : Reading.run {} pattern.text.toList = .ok node :=
    calc Reading.run {} pattern.text.toList
      _ = beforeBare.run "[[:digit:]]+|\\$\\\x7b[[:digit:]]+\\\x7d".toList := hstart
      _ = (beforeBare.push digitBracket).run "+|\\$\\\x7b[[:digit:]]+\\\x7d".toList :=
        Reading.run_of_step rfl hbare
      _ = beforeBraced.run "[[:digit:]]+\\\x7d".toList := hbetween
      _ = (beforeBraced.push digitBracket).run "+\\\x7d".toList :=
        Reading.run_of_step rfl hbraced
      _ = .ok node := hend
  have hdepth : node.depth ≤ Node.depthLimit := by
    decide
  have hnode : Node.parse pattern.text = .ok node := by
    rw [Node.parse, hrun]
    exact if_pos hdepth
  rw [Regex.parse, hnode]
  rfl

end Parse

/-- The instructions that find a reference. -/
def code : Array Inst :=
  #[.fork 1 4, .byte 92, .byte 36, .jump 11, .fork 1 5, .byte 36, .charClass (.bytes ⟨[(48, 57)]⟩),
    .fork (-1) 1, .jump 6, .byte 36, .byte 123, .charClass (.bytes ⟨[(48, 57)]⟩), .fork (-1) 1,
    .byte 125, .accept]

theorem whole_regex : (Code.whole regex).toArray = code :=
  rfl

/-- How many instructions can follow at most before a byte is taken, at each place. -/
def heights : List Nat :=
  [2, 0, 0, 1, 1, 0, 0, 2, 1, 0, 0, 0, 1]

/-- The rank of a place and a position. -/
abbrev rank (text : Bytes) : Nat → Nat → Nat :=
  Code.listedRank heights 2 text

theorem ranked (text : Bytes) : Code.Ranked code text.toArray (rank text) :=
  Code.ranked_of_heights (by decide) (by decide) text

/-- What comes of a way that began at `start`, before the instruction at `place`. -/
def comes (text : Bytes) (start place pos : Nat) : Option (List (Option Nat)) :=
  Code.resultOf code text.toArray (rank text) ⟨place, start, pos, [none, none]⟩

section Comes

variable {text rest : Bytes} {start place pos : Nat} {byte : UInt8}

theorem contains_digit (byte : UInt8) :
    (⟨[(48, 57)]⟩ : IntervalSet).contains byte.toNat = isDigitByte byte := by
  have hlow : (ascii '0').toNat = 48 := rfl
  have hhigh : (ascii '9').toNat = 57 := rfl
  simp [IntervalSet.contains, isDigitByte, UInt8.le_iff_toNat_le, hlow, hhigh]

theorem comes_of_byte (hdrop : text.drop pos = byte :: rest)
    (hinst : code[place]? = some (.byte byte)) :
    comes text start place pos = comes text start (place + 1) (pos + 1) :=
  (ranked text).resultOf_of_byte hinst hdrop

theorem comes_of_other_byte (hpos : pos ≤ text.length) (hinst : code[place]? = some (.byte byte))
    (hother : (text.drop pos).head? ≠ some byte) : comes text start place pos = none :=
  (ranked text).resultOf_of_other_byte hinst hpos hother

theorem comes_digit (hpos : pos ≤ text.length)
    (hinst : code[place]? = some (.charClass (.bytes ⟨[(48, 57)]⟩))) :
    comes text start place pos =
      if (text.drop pos).head?.any isDigitByte then comes text start (place + 1) (pos + 1)
      else none := by
  have hresult : comes text start place pos = _ := (ranked text).resultOf_bytes hinst hpos
  simp only [contains_digit] at hresult
  exact hresult

theorem comes_fork {first second : Int} (hpos : pos ≤ text.length)
    (hinst : code[place]? = some (.fork first second)) :
    comes text start place pos =
      (comes text start (place + first).toNat pos).or
        (comes text start (place + second).toNat pos) :=
  (ranked text).resultOf_fork hpos hinst

theorem comes_jump {distance : Int} (hpos : pos ≤ text.length)
    (hinst : code[place]? = some (.jump distance)) :
    comes text start place pos = comes text start (place + distance).toNat pos :=
  (ranked text).resultOf_jump hpos hinst

theorem comes_accept (hpos : pos ≤ text.length) :
    comes text start 14 pos = some [some start, some pos] :=
  (ranked text).resultOf_accept hpos rfl

section Row

variable (hclass : code[place]? = some (.charClass (.bytes ⟨[(48, 57)]⟩)))
include hclass

/-- Behind a digit more of them are tried first. -/
theorem comes_of_digit (hfork : code[place + 1]? = some (.fork (-1) 1))
    (hdrop : text.drop pos = byte :: rest) (hdigit : isDigitByte byte = true) :
    comes text start place pos =
      (comes text start place (pos + 1)).or (comes text start (place + 2) (pos + 1)) := by
  have hnext := (Code.drop_cons hdrop).1
  have hback : (((place + 1 : Nat) : Int) + -1).toNat = place := by omega
  have hout : (((place + 1 : Nat) : Int) + 1).toNat = place + 2 := by omega
  have hany : (text.drop pos).head?.any isDigitByte = true := by
    rw [hdrop]
    exact hdigit
  rw [comes_digit (Nat.le_of_succ_le hnext) hclass, if_pos hany, comes_fork hnext hfork, hback,
    hout]

theorem comes_of_no_digit (hpos : pos ≤ text.length)
    (hstop : (text.drop pos).takeWhile isDigitByte = []) : comes text start place pos = none := by
  rw [comes_digit hpos hclass, if_neg]
  intro hany
  obtain ⟨byte, hhead, hdigit⟩ := (Option.any_eq_true _ _).mp hany
  obtain ⟨rest, hdrop⟩ := List.head?_eq_some_iff.mp hhead
  rw [hdrop, List.takeWhile_cons_of_pos hdigit] at hstop
  contradiction

/-- A row ends behind the last of its digits, or behind the one before it if nothing comes of that,
and so on. -/
theorem comes_row (hfork : code[place + 1]? = some (.fork (-1) 1)) (hpos : pos ≤ text.length) :
    comes text start place pos =
      (List.range ((text.drop pos).takeWhile isDigitByte).length).reverse.findSome? fun more =>
        comes text start (place + 2) (pos + more + 1) := by
  generalize hdrop : text.drop pos = rest
  induction rest generalizing pos with
  | nil =>
      rw [comes_of_no_digit hclass hpos (by rw [hdrop]; rfl)]
      rfl
  | cons byte rest ih =>
      obtain ⟨hnext, hrest⟩ := Code.drop_cons hdrop
      cases hdigit : isDigitByte byte with
      | false =>
          have hstop : (byte :: rest).takeWhile isDigitByte = [] :=
            List.takeWhile_cons_of_neg (by simp [hdigit])
          rw [comes_of_no_digit hclass hpos (hdrop ▸ hstop), hstop]
          rfl
      | true =>
          rw [comes_of_digit hclass hfork hdrop hdigit, ih hnext hrest,
            List.takeWhile_cons_of_pos hdigit, List.length_cons, List.range_succ_eq_map,
            List.reverse_cons, ← List.map_reverse, List.findSome?_append, List.findSome?_map,
            List.findSome?_singleton]
          congr 2
          funext more
          rw [Function.comp, Nat.add_right_comm pos, Nat.add_assoc pos]

end Row

/-- The digits that are read lie in the text. -/
theorem add_digits_le (hpos : pos ≤ text.length) :
    pos + ((text.drop pos).takeWhile isDigitByte).length ≤ text.length := by
  have hprefix : (text.drop pos).takeWhile isDigitByte <+: text.drop pos :=
    List.takeWhile_prefix isDigitByte
  have hle := hprefix.length_le
  rw [List.length_drop] at hle
  omega

/-- The digits of a bare number are all that there are. -/
theorem comes_bare (hpos : pos ≤ text.length) :
    comes text start 6 pos =
      if (text.drop pos).takeWhile isDigitByte ≠ [] then
        some [some start, some (pos + ((text.drop pos).takeWhile isDigitByte).length)]
      else none := by
  have hend := add_digits_le hpos
  have hrow : comes text start 6 pos = _ := comes_row rfl rfl hpos
  rw [hrow]
  cases hdigits : (text.drop pos).takeWhile isDigitByte with
  | nil => rfl
  | cons digit digits =>
      rw [hdigits, List.length_cons] at hend
      have hout : comes text start (6 + 2) (pos + digits.length + 1) = _ := comes_jump hend rfl
      have hfound := hout.trans (comes_accept hend)
      rw [List.length_cons, List.range_succ, List.reverse_concat, List.findSome?_cons, hfound,
        if_pos (List.cons_ne_nil _ _)]
      rfl

/-- Behind fewer digits than there are stands a digit. -/
theorem exists_digit {count : Nat} (hcount : count < (rest.takeWhile isDigitByte).length) :
    ∃ digit, (rest.drop count).head? = some digit ∧ isDigitByte digit = true := by
  have hprefix : rest.takeWhile isDigitByte <+: rest := List.takeWhile_prefix isDigitByte
  refine ⟨(rest.takeWhile isDigitByte)[count], ?_, ?_⟩
  · rw [List.head?_drop, hprefix.getElem hcount, List.getElem?_eq_getElem]
  · exact List.mem_takeWhile_imp (List.getElem_mem hcount)

theorem comes_close (hpos : pos ≤ text.length) :
    comes text start 13 pos =
      if (text.drop pos).head? = some (ascii '\x7d') then some [some start, some (pos + 1)]
      else none := by
  by_cases hbrace : (text.drop pos).head? = some (ascii '\x7d')
  · obtain ⟨behind, hdrop⟩ := List.head?_eq_some_iff.mp hbrace
    have hbyte : comes text start 13 pos = _ := comes_of_byte hdrop rfl
    rw [if_pos hbrace, hbyte]
    exact comes_accept (Code.drop_cons hdrop).1
  · rw [if_neg hbrace]
    exact comes_of_other_byte hpos rfl hbrace

/-- The digits of a number in braces are all that there are, for the brace is none. -/
theorem comes_braced (hpos : pos ≤ text.length) :
    comes text start 11 pos =
      if (text.drop pos).takeWhile isDigitByte ≠ [] ∧
          ((text.drop pos).drop ((text.drop pos).takeWhile isDigitByte).length).head? =
            some (ascii '\x7d') then
        some [some start, some (pos + ((text.drop pos).takeWhile isDigitByte).length + 1)]
      else none := by
  have hend := add_digits_le hpos
  have hrow : comes text start 11 pos = _ := comes_row rfl rfl hpos
  rw [hrow]
  cases hdigits : (text.drop pos).takeWhile isDigitByte with
  | nil => rfl
  | cons digit digits =>
      rw [hdigits, List.length_cons] at hend
      have hfewer : (List.range digits.length).reverse.findSome?
          (fun more => comes text start (11 + 2) (pos + more + 1)) = none := by
        rw [List.findSome?_eq_none_iff]
        intro more hmore
        have hless := List.mem_range.mp (List.mem_reverse.mp hmore)
        have hcount : more + 1 < ((text.drop pos).takeWhile isDigitByte).length := by
          rw [hdigits]
          exact Nat.succ_lt_succ hless
        obtain ⟨next, hnext, hdigit⟩ := exists_digit hcount
        rw [List.drop_drop] at hnext
        apply comes_of_other_byte (by omega) rfl
        rw [Nat.add_assoc, hnext]
        rintro ⟨⟩
        contradiction
      have hclose : comes text start (11 + 2) (pos + digits.length + 1) = _ := comes_close hend
      rw [List.length_cons, List.range_succ, List.reverse_concat, List.findSome?_cons, hclose,
        hfewer, List.drop_drop, Nat.add_assoc pos]
      by_cases hbrace : (text.drop (pos + (digits.length + 1))).head? = some (ascii '\x7d')
      · rw [if_pos hbrace, if_pos ⟨List.cons_ne_nil _ _, hbrace⟩]
      · rw [if_neg hbrace, if_neg (fun h => hbrace h.2)]

/-- The three ways to write a reference are tried one after the other. -/
theorem comes_start (hpos : pos ≤ text.length) :
    comes text start 0 pos =
      (comes text start 1 pos).or ((comes text start 5 pos).or (comes text start 9 pos)) := by
  have hrest : comes text start 4 pos = _ := comes_fork hpos rfl
  have hfirst : comes text start 0 pos = _ := comes_fork hpos rfl
  rw [hfirst]
  exact congrArg (comes text start 1 pos).or hrest

theorem comes_backslash (hdrop : text.drop pos = ascii '\\' :: rest) :
    comes text start 1 pos =
      (lengthAt (ascii '\\' :: rest)).map fun length => [some start, some (pos + length)] := by
  obtain ⟨hnext, hrest⟩ := Code.drop_cons hdrop
  have hfirst : comes text start 1 pos = comes text start 2 (pos + 1) := comes_of_byte hdrop rfl
  rw [hfirst, lengthAt_backslash]
  by_cases hdollar : rest.head? = some (ascii '$')
  · obtain ⟨more, rfl⟩ := List.head?_eq_some_iff.mp hdollar
    have hend : pos + 2 ≤ text.length := (Code.drop_cons hrest).1
    have hsecond : comes text start 2 (pos + 1) = comes text start 3 (pos + 2) :=
      comes_of_byte hrest rfl
    have hout : comes text start 3 (pos + 2) = _ := comes_jump hend rfl
    rw [hsecond, hout, if_pos hdollar]
    exact comes_accept hend
  · have hnone : comes text start 2 (pos + 1) = none :=
      comes_of_other_byte hnext rfl (hrest ▸ hdollar)
    rw [hnone, if_neg hdollar]
    rfl

/-- At most one of the two ways to write a number goes on behind the dollar sign. -/
theorem comes_dollar (hdrop : text.drop pos = ascii '$' :: rest) :
    (comes text start 5 pos).or (comes text start 9 pos) =
      (lengthAt (ascii '$' :: rest)).map fun length => [some start, some (pos + length)] := by
  obtain ⟨hnext, hrest⟩ := Code.drop_cons hdrop
  have hbare : comes text start 5 pos = comes text start 6 (pos + 1) := comes_of_byte hdrop rfl
  have hbraced : comes text start 9 pos = comes text start 10 (pos + 1) := comes_of_byte hdrop rfl
  rw [hbare, hbraced, comes_bare hnext, hrest]
  by_cases hbrace : rest.head? = some (ascii '\x7b')
  · obtain ⟨more, rfl⟩ := List.head?_eq_some_iff.mp hbrace
    obtain ⟨hinside, hmore⟩ := Code.drop_cons hrest
    have hopen : comes text start 10 (pos + 1) = comes text start 11 (pos + 2) :=
      comes_of_byte hrest rfl
    have hnodigit : (ascii '\x7b' :: more).takeWhile isDigitByte = [] := rfl
    rw [hopen, comes_braced hinside, hmore, lengthAt_brace, if_neg (not_not_intro hnodigit),
      Option.none_or]
    split
    · have hstop : pos + 1 + 1 + (more.takeWhile isDigitByte).length + 1 =
          pos + ((more.takeWhile isDigitByte).length + 3) := by omega
      rw [Option.map_some, ← hstop]
    · rfl
  · have hnone : comes text start 10 (pos + 1) = none :=
      comes_of_other_byte hnext rfl (hrest ▸ hbrace)
    rw [hnone, Option.or_none]
    cases rest with
    | nil => rfl
    | cons second more =>
        have hsecond : second ≠ ascii '\x7b' := fun h => hbrace (congrArg some h)
        rw [lengthAt_bare hsecond]
        split
        · rw [Option.map_some, Nat.add_assoc, Nat.add_comm 1]
        · rfl

/-- What the search finds at a position is the reference that begins there. -/
theorem comes_eq (hpos : pos ≤ text.length) :
    comes text start 0 pos =
      (lengthAt (text.drop pos)).map fun length => [some start, some (pos + length)] := by
  have hbackslash (hother : (text.drop pos).head? ≠ some (ascii '\\')) :
      comes text start 1 pos = none :=
    comes_of_other_byte hpos rfl hother
  have hdollar (hother : (text.drop pos).head? ≠ some (ascii '$')) :
      (comes text start 5 pos).or (comes text start 9 pos) = none := by
    have hbare : comes text start 5 pos = none := comes_of_other_byte hpos rfl hother
    have hbraced : comes text start 9 pos = none := comes_of_other_byte hpos rfl hother
    rw [hbare, hbraced]
    rfl
  rw [comes_start hpos]
  cases hdrop : text.drop pos with
  | nil =>
      rw [hdrop] at hbackslash hdollar
      rw [hbackslash nofun, hdollar nofun]
      rfl
  | cons first rest =>
      rw [hdrop, List.head?_cons, ne_eq, Option.some_inj] at hbackslash hdollar
      by_cases hfirst : first = ascii '\\'
      · subst hfirst
        rw [hdollar (by decide), Option.or_none]
        exact comes_backslash hdrop
      · rw [hbackslash hfirst, Option.none_or]
        by_cases hsecond : first = ascii '$'
        · subst hsecond
          exact comes_dollar hdrop
        · rw [hdollar hsecond, lengthAt_other hfirst hsecond]
          rfl

end Comes

section Program

/-- The search for the expression finds the first reference. -/
theorem leftmost?_regex (text : Bytes) : regex.leftmost? text = first? text := by
  have hsearch : Code.search code 2 text =
      (List.range (text.length + 1)).findSome? fun start => comes text start 0 start :=
    Code.search_eq (ranked text) (by decide) 2
  have hslots : regex.leftmost? text = (Code.search code 2 text).map (.ofSlots 1) := rfl
  rw [hslots, hsearch, first?, Program.firstMatch_eq, List.map_findSome?]
  apply findSome?_congr
  intro start hstart
  have hinside : start ≤ text.length := Nat.le_of_lt_succ (List.mem_range.mp hstart)
  rw [Function.comp, comes_eq hinside, Option.map_map, Option.map_map]
  congr 1
  funext length
  change Captures.ofSlots 1 [some start, some (start + length)] =
    ⟨[some ⟨0 + (0 + start), length + (0 + start)⟩]⟩
  rw [Nat.zero_add, Nat.zero_add, Nat.add_comm]
  rfl

/-- The default engine makes the program of references of their expression. -/
theorem program_regex : ({} : SearchOptions).program regex = program := by
  have hstates :
      SearchOptions.stateCount (Code.whole regex).toArray ≤ SearchOptions.stateLimit := by
    rw [whole_regex]
    decide
  have hexecute : (({} : SearchOptions).program regex).execute = program.execute := by
    funext subject want
    have hanswer : (({} : SearchOptions).program regex).execute subject want = _ :=
      SearchOptions.program_of_not_refused {} want
        (SearchOptions.refuses_withDefaultLimits {} hstates subject.length)
    rw [hanswer, leftmost?_regex]
    rfl
  exact congrArg (Program.mk 1) hexecute

theorem compiled_key {store : Store} (hengine : store.engine = ({} : SearchOptions).engine) :
    (store.compiled key).1 = .ok ⟨program, [], pattern.text⟩ := by
  have hexpanded : key.expanded = .ok pattern.text := rfl
  have hgroups : Compiled.groupsOf pattern.text pattern.flags (regex.lastCapture + 1) = [] := by
    rw [Compiled.groupsOf, outerGroups?, parse_pattern]
    rfl
  have hcompiled : (store.compiled key).1 = _ :=
    Store.compiled_of_parse hengine hexpanded parse_pattern
  rw [hcompiled, program_regex]
  exact congrArg (fun groups => Except.ok (Compiled.mk program groups pattern.text)) hgroups

end Program

end Reference

namespace Template

/-- Whatever was done to a store of the default engine, it gives the pattern of references, with
which every replacement text is read as it is written. -/
theorem grammatical_parse :
    (∀ (capacity : Option Nat) (keepsFailures : Bool) (operations : List Store.Operation),
      (((Store.fresh ({} : SearchOptions).engine capacity keepsFailures).run operations).lookup
        Reference.key).pattern Reference.key = Reference.pattern) ∧
      ∀ text, Grammatical text := by
  constructor
  · intro capacity keepsFailures operations
    obtain ⟨before, hengine, hresult⟩ :=
      Store.lookup_run ({} : SearchOptions).engine capacity keepsFailures operations Reference.key
    rw [Lookup.pattern, Pattern.ofCompilation, hresult, Reference.compiled_key hengine]
    rfl
  · exact grammatical

end Template

end BytePattern
