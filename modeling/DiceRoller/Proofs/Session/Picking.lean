import DiceRoller.Proofs.Roll.Chance
import DiceRoller.Proofs.Scan.Activation
import DiceRoller.Proofs.Session.Conversation
import DiceRoller.Proofs.Session.RoundTrip

/-!
# Picking tokens

The tokens of a text keep the numbers under which they are listed until another text is scanned.  A
number that is picked rolls the token of that number once, for the notation that the token stands for,
and there are three reasons why it may not: there is no such token, no total can reach the difficulty
of its saving throw, or the total of its roll is too large.

Main results:

- Theorem `renderTokens_map_token`: the list of the tokens of a text.
- Theorem `tokens_after_of_quiet`: tokens are remembered until another text is scanned.
- Theorem `pickOutcome_run`: what comes of a number.
- Theorem `pickOutcome_after_scan`: what comes of the numbers that a scan has given.
-/

namespace DiceRoller

/-! ## Texts of replies -/

namespace Reply

/-- The list of the tokens of a text: a number and the token in each line. -/
theorem renderTokens_map_token (found : List PlacedToken) :
    renderTokens (found.map PlacedToken.token) =
      if found = [] then "**tokens** *none*".toList
      else
        "**tokens**".toList ++ (found.zipIdx 1).flatMap fun numbered =>
          '\n' :: Decimal.digits numbered.2 ++ ". ".toList ++ numbered.1.token.render := by
  cases found with
  | nil => rfl
  | cons placed found =>
    rw [renderTokens, if_neg (by simp), if_neg (by simp), renderNumbered_eq_flatMap, List.map_map,
      List.zipIdx_map, List.flatMap_map]
    rfl

theorem ite_saves (dc : UInt64) (total : Int64) (won lost : List Char) :
    (if saves dc total then won else lost) =
      if (dc.toNat : Int) ≤ total.toInt then won else lost :=
  if_congr decide_eq_true_iff rfl rfl

/-- The reply to a saving throw ends with the verdict on its total. -/
theorem text_picked_save (dc : UInt64) (ability : List Char) (roll : Roll) :
    (picked (.save dc ability) roll).text =
      "**rolling** *".toList ++ (Kind.save dc ability).name ++ "*\n".toList ++ roll.render ++
        (" *".toList ++ ability ++ " save vs DC ".toList ++ Decimal.digits dc.toNat ++
          "* **".toList ++
            (if (dc.toNat : Int) ≤ roll.total.toInt then "success".toList else "failure".toList) ++
              "**".toList) := by
  rw [← ite_saves]
  rfl

end Reply

/-- The newest entry of a log is the one that was recorded last, unless the log has no room. -/
theorem Log.latest?_record {α : Type} (log : Log α) (entry : α) :
    (log.record entry).latest? = if log.capacity = 0 then none else some entry := by
  rw [latest?, entries_record]
  cases log.capacity with
  | zero => rfl
  | succ n => rfl

namespace Session

/-! ## One number -/

theorem isOutOfReach_save {dc : UInt64} {ability : List Char}
    (h : Int64.maxValue.toInt < dc.toNat) : isOutOfReach (.save dc ability) = some dc :=
  if_pos h

theorem isOutOfReach_eq_none {kind : Kind}
    (h : ∀ dc ability, kind = .save dc ability → (dc.toNat : Int) ≤ Int64.maxValue.toInt) :
    isOutOfReach kind = none := by
  cases kind with
  | dice => rfl
  | attack bonus => rfl
  | save dc ability => exact if_neg (Int.not_lt.2 (h dc ability rfl))

/-- What comes of a token that is rolled.  Its descriptor is rolled once, for the notation of the
token; the roll is shown, and becomes the newest entry of the log, if that has room for any.  A saving
throw is answered with the verdict on the total. -/
structure TokenRolled (now : List Char) (token : Token) (d : Descriptor) (s : Session) (roll : Roll)
    (result : Except Diagnostic Reply × Session) : Prop where
  made : d.IsExact token.formula (d.randomThrows s.generator) roll
  answered : result =
    (.ok (.picked token.kind roll), ⟨d.spend s.generator, s.log.record ⟨now, roll⟩, s.tokens⟩)
  newest : result.2.log.latest? = if s.log.capacity = 0 then none else some ⟨now, roll⟩
  verdict : ∀ dc ability, token.kind = .save dc ability →
    ∃ reply, result.1 = .ok reply ∧ reply.text =
      "**rolling** *".toList ++ (Kind.save dc ability).name ++ "*\n".toList ++ roll.render ++
        (" *".toList ++ ability ++ " save vs DC ".toList ++ Decimal.digits dc.toNat ++
          "* **".toList ++
            (if (dc.toNat : Int) ≤ roll.total.toInt then "success".toList else "failure".toList) ++
              "**".toList)

/-- What comes of a number, when some tokens are remembered.  Without a token of that number, and for
a difficulty that no total can reach, there is no roll, and the session stays as it is.  Otherwise the
token is rolled, and a total that is too large is the one thing that can still go wrong. -/
structure PickOutcome (now : List Char) (number : UInt64) (found : List PlacedToken) (s : Session)
    (result : Except Diagnostic Reply × Session) : Prop where
  absent : found.length < number.toNat → result = (.error (.noToken number), s)
  outOfReach : ∀ placed dc ability, found[number.toNat - 1]? = some placed ∧
      placed.token.kind = .save dc ability ∧ Int64.maxValue.toInt < dc.toNat →
    result = (.error (.dcOutOfRange dc), s)
  rolled : ∀ placed, found[number.toNat - 1]? = some placed ∧
      (∀ dc ability, placed.token.kind = .save dc ability →
        (dc.toNat : Int) ≤ Int64.maxValue.toInt) →
    ∃ d, Descriptor.parse placed.token.formula = .ok d ∧
      (Int64.maxValue.toInt < d.randomTotal s.generator →
        result = (.error (.failed .totalOverflow), ⟨d.spend s.generator, s.log, s.tokens⟩)) ∧
      (d.randomTotal s.generator ≤ Int64.maxValue.toInt →
        ∃ roll, TokenRolled now placed.token d s roll result)

variable {now line : List Char} {number : UInt64} {s : Session}

theorem run_of_pick (h : Command.parse line = .ok (.pick number)) :
    s.run now line = s.answer now (pickRequest s.tokens number) := by
  rw [run_of_parse h]
  exact answerPick_eq_answer number

theorem tokenRolled_of_exact {token : Token} {d : Descriptor} {roll : Roll}
    {result : Except Diagnostic Reply × Session}
    (hmade : d.IsExact token.formula (d.randomThrows s.generator) roll)
    (hresult : result =
      (.ok (.picked token.kind roll),
        ⟨d.spend s.generator, s.log.record ⟨now, roll⟩, s.tokens⟩)) :
    TokenRolled now token d s roll result := by
  refine ⟨hmade, hresult, ?_, ?_⟩
  · rw [hresult]
    exact s.log.latest?_record ⟨now, roll⟩
  · intro dc ability hkind
    refine ⟨.picked token.kind roll, congrArg Prod.fst hresult, ?_⟩
    rw [hkind]
    exact Reply.text_picked_save dc ability roll

/-- What comes of a number that is picked from the tokens of a text. -/
theorem pickOutcome_run {text : List Char} (htokens : s.tokens = scan text)
    (h : Command.parse line = .ok (.pick number)) :
    s.PickOutcome now number (scan text) (s.run now line) := by
  have hnumber := Command.one_le_of_parse_pick h
  rw [run_of_pick h, htokens]
  constructor
  · intro hlength
    rw [pickRequest_of_absent (List.getElem?_eq_none (by omega))]
    rfl
  · intro placed dc ability hfar
    rcases hfar with ⟨hplaced, hkind, hlt⟩
    have hreach : isOutOfReach placed.token.kind = some dc := by
      rw [hkind]
      exact isOutOfReach_save hlt
    rw [pickRequest_of_outOfReach hplaced hreach]
    rfl
  · intro placed hnear
    rcases hnear with ⟨hplaced, hle⟩
    rcases exists_query_of_mem_scan (List.mem_of_getElem? hplaced) with ⟨d, hparse, -, hquery⟩
    have hvalid := Descriptor.validate_of_parse hparse
    rw [pickRequest_of_ok hplaced (isOutOfReach_eq_none hle) hquery]
    refine ⟨d, hparse, ?_, ?_⟩
    · intro hlt
      exact answerQuery_of_error (Descriptor.rollAs_random_of_lt hvalid _ hlt)
    · intro hfits
      rcases Descriptor.rollAs_random_of_le hvalid placed.token.formula hfits with
        ⟨roll, hroll, hexact⟩
      exact ⟨roll, tokenRolled_of_exact hexact (answerQuery_of_ok hroll)⟩

/-! ## Many lines -/

theorem scanned?_of_quiet (time : List Char)
    (h : ∀ command, Command.parse line = .ok command → command.scanned? = none) :
    (s.exchange time line).scanned? = none := by
  cases hparse : Command.parse line with
  | error fault => rw [Exchange.scanned?, exchange, Exchange.command?_of_fault hparse, Option.bind_none]
  | ok command =>
    rw [Exchange.scanned?, exchange, Exchange.command?_of_ok hparse, Option.bind_some,
      h command hparse]

/-- Tokens are remembered until another text is scanned. -/
theorem tokens_after_of_quiet {lines : List (List Char × List Char)}
    (h : ∀ typed ∈ lines, ∀ command, Command.parse typed.2 = .ok command →
      command.scanned? = none) (s : Session) :
    (s.after lines).tokens = s.tokens := by
  induction lines generalizing s with
  | nil => rfl
  | cons typed lines ih =>
    have hfirst := scanned?_of_quiet (s := s) typed.1 (h typed List.mem_cons_self)
    rw [after_cons, ih (fun other hother => h other (List.mem_cons_of_mem typed hother)), tokens_run,
      hfirst]
    rfl

/-- What is said about a line that lists the tokens of a text. -/
theorem run_of_scan {text : List Char} (time : List Char)
    (h : Command.parse line = .ok (.scan text)) :
    (s.run time line).1 = .ok (.tokens ((scan text).map PlacedToken.token)) := by
  rw [run_of_parse h]
  rfl

/-- The numbers that are shown are those that are picked.  After a line that scans a text, and any
lines that scan no other one, a number picks from the tokens of that text.  Numbers count from one and
are typed as their digits; digits that are no 64 bit number pick nothing.  When the line lists the
tokens, it lists them under these numbers. -/
theorem pickOutcome_after_scan {line text : List Char} {command : Command}
    {lines : List (List Char × List Char)} (s : Session) (time : List Char)
    (hparse : Command.parse line = .ok command) (hscanned : command.scanned? = some text)
    (hquiet : ∀ typed ∈ lines, ∀ other, Command.parse typed.2 = .ok other →
      other.scanned? = none) :
    let u := s.after ((time, line) :: lines)
    (∀ now pick number, Command.parse pick = .ok (.pick number) →
      1 ≤ number.toNat ∧ u.PickOutcome now number (scan text) (u.run now pick)) ∧
    (∀ now n, 1 ≤ n →
      (∀ number : UInt64, number.toNat = n →
        Command.parse ("!pick ".toList ++ Decimal.digits n) = .ok (.pick number)) ∧
      (UInt64.size ≤ n →
        ∃ fault, u.run now ("!pick ".toList ++ Decimal.digits n) = (.error (.command fault), u))) ∧
    (command = .scan text → ∃ reply, (s.run time line).1 = .ok reply ∧
      reply.text =
        if scan text = [] then "**tokens** *none*".toList
        else
          "**tokens**".toList ++ ((scan text).zipIdx 1).flatMap fun numbered =>
            '\n' :: Decimal.digits numbered.2 ++ ". ".toList ++ numbered.1.token.render) := by
  intro u
  have htokens : u.tokens = scan text := by
    have hfirst : (s.exchange time line).scanned? = some text := by
      rw [Exchange.scanned?, exchange, Exchange.command?_of_ok hparse]
      exact hscanned
    have hbehind : u.tokens = (s.run time line).2.tokens := tokens_after_of_quiet hquiet _
    rw [hbehind, tokens_run, hfirst]
    rfl
  refine ⟨?_, ?_, ?_⟩
  · intro now pick number hpick
    exact ⟨Command.one_le_of_parse_pick hpick, pickOutcome_run htokens hpick⟩
  · intro now n hpos
    refine ⟨fun number hnumber => Command.parse_pick_of_toNat_eq hpos hnumber, ?_⟩
    intro hsize
    rcases Command.exists_fault_of_size_le hsize with ⟨fault, hfault⟩
    exact ⟨fault, run_of_bad_command hfault⟩
  · rintro rfl
    exact ⟨_, run_of_scan time hparse, Reply.renderTokens_map_token _⟩

/-- A saving throw that is picked behind a roll and a cleared log. -/
theorem pickOutcome_after_scan_save :
    let u := (start (.listed [3]) 1).after
      [("09:14:59".toList, "!scan DC 13 Wisdom saving throw".toList),
        ("09:15:00".toList, "1d6".toList), ("09:15:01".toList, "!clear".toList)]
    scan "DC 13 Wisdom saving throw".toList =
        [⟨⟨"13".toList, .save 13 "Wisdom".toList⟩, 3⟩] ∧
      u.PickOutcome "09:15:02".toList 1 (scan "DC 13 Wisdom saving throw".toList)
        (u.run "09:15:02".toList "!p 1".toList) := by
  intro u
  have hscan : Command.parse "!scan DC 13 Wisdom saving throw".toList =
      .ok (.scan "DC 13 Wisdom saving throw".toList) := by decide +kernel
  have hroll : Command.parse "1d6".toList = .ok (.roll "1d6".toList) := by decide +kernel
  have hclear : Command.parse "!clear".toList = .ok .clear := by decide +kernel
  have hpick : Command.parse "!p 1".toList = .ok (.pick 1) := by decide +kernel
  have hquiet : ∀ typed ∈ [("09:15:00".toList, "1d6".toList), ("09:15:01".toList, "!clear".toList)],
      ∀ other, Command.parse typed.2 = .ok other → other.scanned? = none := by
    intro typed htyped other hother
    rcases List.mem_pair.1 htyped with rfl | rfl
    · cases hroll.symm.trans hother
      rfl
    · cases hclear.symm.trans hother
      rfl
  have hfound : scan "DC 13 Wisdom saving throw".toList =
      [⟨⟨"13".toList, .save 13 "Wisdom".toList⟩, 3⟩] := by decide +kernel
  have houtcome := pickOutcome_after_scan (start (.listed [3]) 1) "09:14:59".toList hscan rfl hquiet
  exact ⟨hfound, (houtcome.1 _ _ 1 hpick).2⟩

end Session
end DiceRoller
