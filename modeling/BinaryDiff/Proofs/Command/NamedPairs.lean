import BinaryDiff.Proofs.Command.Matches
import BinaryDiff.Proofs.Report.ReadBack

/-!
# Matches read back from messages and lists

A match is named by the texts of its two addresses.  In a message these stand between the first
parentheses, so whatever a sink complained of, the match that it rejected can be read from the
message (`AddressPair.named?_message`).  In a list of matches each has a line or an object of its
own, and the whole list can be read back (`MatchesRequest.listed_output`).  Together with the order
of the texts this makes the texts as good as the addresses (`formatAddress_identifies`).
-/

namespace BinaryDiff

/-! ### Cutting a text at a character -/

section Cut

variable {stop : Char} {word : List Char}

lemma takeWhile_append_cons (h : stop ∉ word) (rest : List Char) :
    (word ++ stop :: rest).takeWhile (· != stop) = word := by
  have hword : ∀ c ∈ word, (c != stop) = true := fun c hc =>
    bne_iff_ne.mpr (ne_of_mem_of_not_mem hc h)
  rw [List.takeWhile_append_of_pos hword]
  simp

lemma dropWhile_append_cons (h : stop ∉ word) (rest : List Char) :
    (word ++ stop :: rest).dropWhile (· != stop) = stop :: rest := by
  have hword : ∀ c ∈ word, (c != stop) = true := fun c hc =>
    bne_iff_ne.mpr (ne_of_mem_of_not_mem hc h)
  rw [List.dropWhile_append_of_pos hword]
  simp

end Cut

lemma not_mem_formatAddress {address : Int} (h : 0 ≤ address) {c : Char}
    (hc : c ∈ ['(', ')', ',', ' ', '\n']) : c ∉ (formatAddress address).toList := by
  intro hmem
  revert hc
  rcases mem_formatAddress h hmem with rfl | ⟨value, hvalue, rfl⟩
  · decide
  · interval_cases value <;> decide

namespace AddressPair

/-- Neither address of a match is negative. -/
def Nonnegative (pair : AddressPair) : Prop := 0 ≤ pair.primary ∧ 0 ≤ pair.secondary

/-! ### Messages -/

/-- The match that a text names between its first parentheses. -/
def named? (text : List Char) : Option AddressPair := do
  let inside := ((text.dropWhile (· != '(')).drop 1).takeWhile (· != ')')
  return ⟨← Hex.readSigned (inside.takeWhile (· != ',')),
    ← Hex.readSigned ((inside.dropWhile (· != ',')).drop 2)⟩

/-- A match is read from its text, whatever comes after it and whatever without a parenthesis comes
before. -/
lemma named?_append {pair : AddressPair} (h : pair.Nonnegative) {before : List Char}
    (hbefore : '(' ∉ before) (after : List Char) :
    named? (before ++ (pair.text.toList ++ after)) = some pair := by
  obtain ⟨primary, secondary⟩ := pair
  obtain ⟨hprimary, hsecondary⟩ := h
  have hinside : ')' ∉
      (formatAddress primary).toList ++ ',' :: ' ' :: (formatAddress secondary).toList := by
    simp [not_mem_formatAddress hprimary, not_mem_formatAddress hsecondary]
  have htext : (text ⟨primary, secondary⟩).toList ++ after = '(' :: ((formatAddress primary).toList
      ++ ',' :: ' ' :: (formatAddress secondary).toList ++ ')' :: after) := by
    simp [text, String.toList_append]
  rw [htext, named?, dropWhile_append_cons hbefore, List.drop_one, List.tail_cons,
    takeWhile_append_cons hinside,
    takeWhile_append_cons (not_mem_formatAddress hprimary (by decide)),
    dropWhile_append_cons (not_mem_formatAddress hprimary (by decide)),
    readSigned_formatAddress hprimary]
  change (do return ⟨primary, ← Hex.readSigned (formatAddress secondary).toList⟩ :
    Option AddressPair) = _
  rw [readSigned_formatAddress hsecondary]
  rfl

/-- A match is read from its text. -/
lemma named?_text {pair : AddressPair} (h : pair.Nonnegative) :
    named? pair.text.toList = some pair := by
  simpa using named?_append h (List.not_mem_nil (a := '(')) []

/-- The match that a sink rejected is read from the message, whatever the sink complained of. -/
lemma named?_message {pair : AddressPair} (h : pair.Nonnegative) (granularity : Granularity)
    (index : Int) (complaint : String) (path : Option String) (cause : Cause) :
    named? (DiffError.rejected granularity pair index complaint path cause).message.toList
      = some pair := by
  have hindex : '(' ∉ (toString index).toList := by
    intro hmem
    rcases eq_minus_or_isDigit_of_mem_toString hmem with hminus | hdigit
    · exact absurd hminus (by decide)
    · exact absurd hdigit (by decide)
  have hlabel : '(' ∉ granularity.label.toList := by cases granularity <;> decide
  have hbefore : '(' ∉ (granularity.label ++ " sink rejected match #" ++ toString index
      ++ " ").toList := by
    simp only [String.toList_append, List.mem_append, not_or]
    exact ⟨⟨⟨hlabel, by decide⟩, hindex⟩, by decide⟩
  have hmessage : (DiffError.rejected granularity pair index complaint path cause).message
      = granularity.label ++ " sink rejected match #" ++ toString index ++ " "
        ++ (pair.text ++ (": " ++ complaint)) :=
    calc (DiffError.rejected granularity pair index complaint path cause).message
      _ = s!"{granularity.label} sink rejected match #{index} {pair.text}: {complaint}" := rfl
      _ = _ := by simp only [toString, ← String.append_assoc]
  rw [hmessage, String.toList_append, String.toList_append (s := pair.text)]
  exact named?_append h hbefore _

/-! ### Rows -/

/-- The match of a row that is an object with the texts of the addresses. -/
def ofObject? (row : Json) : Option AddressPair := do
  return ⟨← Hex.readSigned (← Summary.text? "primary" row).toList,
    ← Hex.readSigned (← Summary.text? "secondary" row).toList⟩

lemma ofObject?_texts {texts : String × String} {pair : AddressPair}
    (h : MatchesRequest.ReadsAs texts pair) :
    ofObject? (.obj [("primary", .str texts.1), ("secondary", .str texts.2)]) = some pair := by
  change (do return ⟨← Hex.readSigned texts.1.toList, ← Hex.readSigned texts.2.toList⟩ :
    Option AddressPair) = _
  rw [h.1, h.2]
  rfl

/-- A match is read from its row. -/
lemma ofObject?_row {pair : AddressPair} (h : pair.Nonnegative) :
    ofObject? (.obj (MatchesRequest.row pair)) = some pair := by
  have hreads : MatchesRequest.ReadsAs (MatchesRequest.addressTexts pair) pair :=
    ⟨readSigned_formatAddress h.1, readSigned_formatAddress h.2⟩
  have hrow := ofObject?_texts hreads
  exact hrow

/-- The addresses among the words of a line. -/
def addressesIn (line : List Char) : List Int :=
  (piecesBy (· == ' ') line).filterMap Hex.readSigned

/-- The match of a row that is a line of a table: a line with two addresses. -/
def ofLine? (line : List Char) : Option AddressPair :=
  match addressesIn line with
  | [primary, secondary] => some ⟨primary, secondary⟩
  | _ => none

section Lines

variable {word : List Char}

lemma addressesIn_word (h : ' ' ∉ word) : addressesIn word = (Hex.readSigned word).toList := by
  have hword : ∀ c ∈ word, (c == ' ') = false := fun c hc =>
    beq_eq_false_iff_ne.mpr (ne_of_mem_of_not_mem hc h)
  rw [addressesIn, Wrap.piecesBy_of_free hword]
  cases hread : Hex.readSigned word <;> simp [hread]

lemma addressesIn_append_cons (h : ' ' ∉ word) (rest : List Char) :
    addressesIn (word ++ ' ' :: rest) = (Hex.readSigned word).toList ++ addressesIn rest := by
  have hword : ∀ c ∈ word, (c == ' ') = false := fun c hc =>
    beq_eq_false_iff_ne.mpr (ne_of_mem_of_not_mem hc h)
  rw [addressesIn, Wrap.piecesBy_append_of_free hword, addressesIn]
  cases hread : Hex.readSigned word <;> simp [piecesBy, extendHead, hread]

lemma addressesIn_spaces (count : Nat) (rest : List Char) :
    addressesIn (List.replicate count ' ' ++ rest) = addressesIn rest := by
  induction count with
  | zero => rfl
  | succ count ih =>
    rw [List.replicate_succ, List.cons_append, ← ih]
    exact addressesIn_append_cons List.not_mem_nil _

end Lines

/-- A match is read from its line in a table. -/
lemma ofLine?_plainRow {pair : AddressPair} (h : pair.Nonnegative) (first second : Nat) :
    ofLine? (TableText.plainRow '│' [first, second]
      [(formatAddress pair.primary).toList, (formatAddress pair.secondary).toList])
      = some pair := by
  have hprimary := not_mem_formatAddress h.1 (c := ' ') (by decide)
  have hsecondary := not_mem_formatAddress h.2 (c := ' ') (by decide)
  have hedge : ' ' ∉ ['│'] := by decide
  have hspaces : ∀ count, List.replicate count ' ' ++ [' '] = ' ' :: List.replicate count ' ' :=
    fun count => by rw [← List.replicate_succ', List.replicate_succ]
  -- the line word by word, where every space begins the next one
  have hline : TableText.plainRow '│' [first, second]
      [(formatAddress pair.primary).toList, (formatAddress pair.secondary).toList]
      = ['│'] ++ ' ' :: ((formatAddress pair.primary).toList ++ ' ' ::
          (List.replicate (first - 2 - (formatAddress pair.primary).toList.length) ' ' ++
            (['│'] ++ ' ' :: ((formatAddress pair.secondary).toList ++ ' ' ::
              (List.replicate (second - 2 - (formatAddress pair.secondary).toList.length) ' ' ++
                ['│']))))) := by
    simp [TableText.plainRow, TableText.frame, hspaces]
  rw [ofLine?, hline, addressesIn_append_cons hedge, addressesIn_append_cons hprimary,
    addressesIn_spaces, addressesIn_append_cons hedge, addressesIn_append_cons hsecondary,
    addressesIn_spaces, addressesIn_word hedge, readSigned_formatAddress h.1,
    readSigned_formatAddress h.2]
  rfl

lemma readSigned_eq_none {word : List Char} (h : 'x' ∉ word) : Hex.readSigned word = none := by
  unfold Hex.readSigned
  split
  · simp at h
  · simp at h
  · rfl

lemma forall_mem_piecesBy {P : Char → Prop} {text : List Char} (h : ∀ c ∈ text, P c)
    (isBreak : Char → Bool) : ∀ piece ∈ piecesBy isBreak text, ∀ c ∈ piece, P c := by
  induction text with
  | nil => simp [piecesBy]
  | cons c rest ih =>
    obtain ⟨hc, hrest⟩ := List.forall_mem_cons.mp h
    obtain ⟨first, others, hpieces⟩ := Wrap.exists_piecesBy isBreak rest
    have hall := ih hrest
    rw [hpieces, List.forall_mem_cons] at hall
    rw [piecesBy, hpieces]
    split
    · simpa using hall
    · simpa [extendFirst, extendHead, hc] using hall

/-- Most lines hold no address. -/
lemma ofLine?_eq_none {line : List Char} (h : 'x' ∉ line) : ofLine? line = none := by
  have hnone : addressesIn line = [] := by
    refine List.filterMap_eq_nil_iff.mpr fun piece hpiece => readSigned_eq_none fun hmem => ?_
    exact forall_mem_piecesBy (P := (· ≠ 'x')) (fun c hc => ne_of_mem_of_not_mem hc h) _ piece
      hpiece _ hmem rfl
  rw [ofLine?, hnone]

end AddressPair

namespace MatchesRequest

/-! ### Tables -/

/-- The line of a match in a table. -/
def line (first second : Nat) (pair : AddressPair) : List Char :=
  TableText.plainRow '│' [first, second]
    [(formatAddress pair.primary).toList, (formatAddress pair.secondary).toList]

/-- The lines above the matches in a table. -/
def above (granularity : Granularity) (left right first second : Nat) : List (List Char) :=
  [List.replicate left ' ' ++ (granularity.label ++ " matches").toList ++ List.replicate right ' ',
    TableText.rule '┏' '━' '┳' '┓' [first, second],
    TableText.plainRow '┃' [first, second] ["primary".toList, "secondary".toList],
    TableText.rule '┡' '━' '╇' '┩' [first, second]]

/-- The line below them. -/
def below (first second : Nat) : List Char := TableText.rule '└' '─' '┴' '┘' [first, second]

lemma exists_plainTable (granularity : Granularity) {pairs : List AddressPair}
    (h : ∀ pair ∈ pairs, Bounded pair) :
    ∃ left right first second, TableText.plainTable (granularity.label ++ " matches").toList
        ["primary".toList, "secondary".toList]
        (pairs.map fun pair => [(addressTexts pair).1.toList, (addressTexts pair).2.toList])
      = above granularity left right first second ++ pairs.map (line first second)
        ++ [below first second] := by
  obtain ⟨first, second, hwidths, -⟩ := exists_plainWidths h
  rw [TableText.plainTable, hwidths, List.map_map]
  exact ⟨_, _, first, second, rfl⟩

lemma not_mem_frame {c left between right : Char} {first second : List Char} :
    c ∉ TableText.frame left between right [first, second] ↔
      c ≠ left ∧ c ∉ first ∧ c ≠ between ∧ c ∉ second ∧ c ≠ right := by
  simp [TableText.frame]

lemma not_mem_rule {c left line between right : Char} (h : c ∉ [left, line, between, right])
    (first second : Nat) : c ∉ TableText.rule left line between right [first, second] := by
  simp only [List.mem_cons, List.not_mem_nil, or_false, not_or] at h
  obtain ⟨hleft, hline, hbetween, hright⟩ := h
  have hlines : ∀ width, c ∉ List.replicate width line := fun width hmem =>
    hline (List.eq_of_mem_replicate hmem)
  exact not_mem_frame.mpr ⟨hleft, hlines first, hbetween, hlines second, hright⟩

lemma not_mem_plainRow {c edge : Char} {text other : List Char} (hedge : c ∉ [edge, ' '])
    (htext : c ∉ text) (hother : c ∉ other) (first second : Nat) :
    c ∉ TableText.plainRow edge [first, second] [text, other] := by
  simp only [List.mem_cons, List.not_mem_nil, or_false, not_or] at hedge
  have hspaces : ∀ count, c ∉ List.replicate count ' ' := fun count hmem =>
    hedge.2 (List.eq_of_mem_replicate hmem)
  refine not_mem_frame.mpr ⟨hedge.1, ?_, hedge.1, ?_, hedge.1⟩
  · simp [hedge.2, htext, hspaces]
  · simp [hedge.2, hother, hspaces]

lemma not_mem_title {c : Char} (hc : c ∈ ['x', '\n']) (granularity : Granularity)
    (left right : Nat) :
    c ∉ List.replicate left ' ' ++ (granularity.label ++ " matches").toList
      ++ List.replicate right ' ' := by
  have hspaces : ∀ count, c ∉ List.replicate count ' ' := by
    intro count hmem
    rw [List.eq_of_mem_replicate hmem] at hc
    exact absurd hc (by decide)
  have hlabel : c ∉ (granularity.label ++ " matches").toList := by
    obtain rfl | rfl := List.mem_pair.mp hc
    · cases granularity <;> decide
    · cases granularity <;> decide
  simp only [List.mem_append, not_or]
  exact ⟨⟨hspaces left, hlabel⟩, hspaces right⟩

lemma not_mem_of_mem_above {granularity : Granularity} {left right first second : Nat} {c : Char}
    (hc : c ∈ ['x', '\n']) : ∀ line ∈ above granularity left right first second, c ∉ line := by
  have hmarks : c ∉ ['┏', '━', '┳', '┓'] ∧ c ∉ ['┃', ' '] ∧ c ∉ "primary".toList ∧
      c ∉ "secondary".toList ∧ c ∉ ['┡', '━', '╇', '┩'] := by
    obtain rfl | rfl := List.mem_pair.mp hc <;> decide
  obtain ⟨htop, hedge, hprimary, hsecondary, hbottom⟩ := hmarks
  simp only [above, List.forall_mem_cons, List.not_mem_nil, false_implies, implies_true, and_true]
  exact ⟨not_mem_title hc granularity left right, not_mem_rule htop first second,
    not_mem_plainRow hedge hprimary hsecondary first second, not_mem_rule hbottom first second⟩

lemma not_mem_below {c : Char} (hc : c ∈ ['x', '\n']) (first second : Nat) :
    c ∉ below first second := by
  have hmarks : c ∉ ['└', '─', '┴', '┘'] := by
    obtain rfl | rfl := List.mem_pair.mp hc <;> decide
  exact not_mem_rule hmarks first second

lemma newline_not_mem_line {pair : AddressPair} (h : pair.Nonnegative) (first second : Nat) :
    '\n' ∉ line first second pair :=
  not_mem_plainRow (by decide) (not_mem_formatAddress h.1 (by decide))
    (not_mem_formatAddress h.2 (by decide)) first second

/-- The lines of a printed text are those that were printed, and an empty one. -/
lemma piecesBy_unlines {lines : List (List Char)} (h : ∀ line ∈ lines, '\n' ∉ line) :
    piecesBy (· == '\n') (Display.unlines lines).toList = lines ++ [[]] := by
  rw [Display.unlines, String.toList_ofList]
  induction lines with
  | nil => rfl
  | cons line lines ih =>
    obtain ⟨hline, hlines⟩ := List.forall_mem_cons.mp h
    have hfree : ∀ c ∈ line, (c == '\n') = false := fun c hc =>
      beq_eq_false_iff_ne.mpr (ne_of_mem_of_not_mem hc hline)
    rw [List.flatMap_cons, List.append_assoc, Wrap.piecesBy_append_of_free hfree]
    simp [piecesBy, extendHead, ih hlines]

/-- The matches are read from their lines, and all other lines are passed over. -/
lemma filterMap_ofLine?_lines {pairs : List AddressPair} (h : ∀ pair ∈ pairs, pair.Nonnegative)
    (granularity : Granularity) (left right first second : Nat) :
    (above granularity left right first second ++ pairs.map (line first second)
      ++ [below first second] ++ [[]]).filterMap AddressPair.ofLine? = pairs := by
  have habove : (above granularity left right first second).filterMap AddressPair.ofLine? = [] :=
    List.filterMap_eq_nil_iff.mpr fun line hline =>
      AddressPair.ofLine?_eq_none (not_mem_of_mem_above (by decide) line hline)
  have hbelow : [below first second].filterMap AddressPair.ofLine? = [] := by
    simp [AddressPair.ofLine?_eq_none (not_mem_below (c := 'x') (by decide) first second)]
  have hlines : (pairs.map (line first second)).filterMap AddressPair.ofLine? = pairs := by
    have hread : ∀ pair ∈ pairs, (AddressPair.ofLine? ∘ line first second) pair = some pair :=
      fun pair hpair => AddressPair.ofLine?_plainRow (h pair hpair) first second
    rw [List.filterMap_map, List.filterMap_congr hread, List.filterMap_some]
  have hend : [[]].filterMap AddressPair.ofLine? = [] := by
    simp [AddressPair.ofLine?_eq_none (List.not_mem_nil (a := 'x'))]
  simp only [List.filterMap_append, habove, hbelow, hlines, hend, List.nil_append, List.append_nil]

/-! ### Lists -/

/-- The matches that a printed list shows. -/
def listed (request : MatchesRequest) (output : String) : Option (List AddressPair) :=
  if request.json then (Json.parse output).bind fun list => list.items.mapM AddressPair.ofObject?
  else some ((piecesBy (· == '\n') output.toList).filterMap AddressPair.ofLine?)

lemma mapM_ofObject? {pairs : List AddressPair} (h : ∀ pair ∈ pairs, pair.Nonnegative) :
    (pairs.map fun pair => Json.obj (row pair)).mapM AddressPair.ofObject? = some pairs := by
  induction pairs with
  | nil => rfl
  | cons pair pairs ih =>
    obtain ⟨hpair, hpairs⟩ := List.forall_mem_cons.mp h
    rw [List.map_cons, List.mapM_cons, AddressPair.ofObject?_row hpair, ih hpairs]
    rfl

/-- What is printed about some matches tells them, if there is room for it. -/
theorem listed_output (request : MatchesRequest) (granularity : Granularity) {console : Console}
    (hroom : request.HasRoom console) {pairs : List AddressPair}
    (h : ∀ pair ∈ pairs, Bounded pair) :
    ∃ output, request.output console granularity pairs = .ok output ∧
      request.listed output = some pairs := by
  obtain ⟨output, houtput, hshown⟩ := request.exists_output_eq_ok granularity console h
  have hlists := hshown hroom
  refine ⟨output, houtput, ?_⟩
  have hnonnegative : ∀ pair ∈ pairs, pair.Nonnegative := fun pair hpair =>
    ⟨(h pair hpair).1.1, (h pair hpair).2.1⟩
  rw [Lists] at hlists
  rw [listed]
  split at hlists
  · rw [if_pos ‹_›, hlists, List.map_map]
    exact mapM_ofObject? hnonnegative
  · rw [if_neg ‹_›]
    split at hlists
    · -- the one line that is printed for no matches has no address in it
      rename_i hnone
      rw [hlists, List.map_eq_nil_iff.mp hnone]
      decide +kernel
    · obtain ⟨left, right, first, second, htable⟩ := exists_plainTable granularity h
      have hlines : ∀ text ∈ above granularity left right first second
          ++ pairs.map (line first second) ++ [below first second], '\n' ∉ text := by
        simp only [List.forall_mem_append, List.forall_mem_map, List.forall_mem_singleton]
        exact ⟨⟨not_mem_of_mem_above (by decide), fun pair hpair =>
          newline_not_mem_line (hnonnegative pair hpair) first second⟩,
          not_mem_below (by decide) first second⟩
      have hprinted : output = Display.unlines (above granularity left right first second
          ++ pairs.map (line first second) ++ [below first second]) := by
        rw [hlists, List.map_map]
        exact congrArg Display.unlines htable
      rw [hprinted, piecesBy_unlines hlines, filterMap_ofLine?_lines hnonnegative]

end MatchesRequest

/-! ### Texts in place of addresses -/

/-- The text of an address is `0x` and its digits in base sixteen, with zeros on the left up to
eight places only, and reads back as the address.  So different addresses have different texts, and
of two texts of one length the lesser is that of the lesser address.  The text of a match tells both
addresses and which of them is the primary one; so do the message about a match that was rejected
and the row of a match, as an object and on a console that has room for it. -/
theorem formatAddress_identifies :
    (∀ n : ℕ,
      let digits := Nat.toDigits 16 n
      (formatAddress n).toList = ['0', 'x'] ++ (List.replicate (8 - digits.length) '0' ++ digits) ∧
        (∀ c ∈ digits, c ∈ "0123456789abcdef".toList) ∧
        (8 < digits.length → digits.head? ≠ some '0') ∧
        Hex.readSigned (formatAddress n).toList = some (n : ℤ)) ∧
    (∀ m n : ℕ, formatAddress m = formatAddress n → m = n) ∧
    (∀ m n : ℕ, (formatAddress m).length = (formatAddress n).length →
      (formatAddress m < formatAddress n ↔ m < n)) ∧
    (∀ pair other : AddressPair, pair.Nonnegative → other.Nonnegative →
      pair.text = other.text → pair.primary = other.primary ∧ pair.secondary = other.secondary) ∧
    (∀ pair : AddressPair, pair.Nonnegative →
      AddressPair.named? pair.text.toList = some pair ∧
        (∀ granularity index complaint path cause, AddressPair.named?
          (DiffError.rejected granularity pair index complaint path cause).message.toList
            = some pair) ∧
        AddressPair.ofObject? (.obj (MatchesRequest.row pair)) = some pair) ∧
    ∀ (request : MatchesRequest) (granularity : Granularity) (console : Console)
      (pairs : List AddressPair), request.HasRoom console →
        (∀ pair ∈ pairs, MatchesRequest.Bounded pair) →
          ∃ output, request.output console granularity pairs = .ok output ∧
            request.listed output = some pairs := by
  refine ⟨fun n => ?_, fun m n htexts => formatAddress_natCast_injective htexts,
    fun m n hlength => formatAddress_lt_iff hlength, fun pair other hpair hother htexts => ?_,
    fun pair hpair => ⟨AddressPair.named?_text hpair, AddressPair.named?_message hpair,
      AddressPair.ofObject?_row hpair⟩,
    fun request granularity console pairs hroom hbounded =>
      request.listed_output granularity hroom hbounded⟩
  · intro digits
    refine ⟨toList_formatAddress_natCast n, fun c hc => ?_, fun hlong => ?_,
      readSigned_formatAddress (Int.natCast_nonneg n)⟩
    · have hc' : c ∈ Hex.digits n := (Hex.digits_eq_toDigits n).symm ▸ hc
      obtain ⟨value, hvalue, rfl⟩ := Hex.exists_digit_of_mem_digits hc'
      interval_cases value <;> decide
    · have hne : n ≠ 0 := by
        rintro rfl
        exact absurd hlong (by decide)
      have hhead := Hex.head?_digits_ne hne
      rwa [Hex.digits_eq_toDigits] at hhead
  · -- both matches are read from the one text
    have hsame := AddressPair.named?_text hpair
    rw [htexts, AddressPair.named?_text hother, Option.some.injEq] at hsame
    rw [hsame]
    exact ⟨rfl, rfl⟩

/-- The least address of nine digits does not read like the one before it, of two texts of ten
characters the lesser is that of the lesser address, a match does not read like the same addresses
the other way round, a complaint that has parentheses of its own does not hide the match, and the
matches of a list are read from its table. -/
theorem formatAddress_identifies_sample :
    let pair : AddressPair := ⟨0x58360, 0x8095860⟩
    let request : MatchesRequest := ⟨⟨0, ["a.db"]⟩, "function", 2, false⟩
    (formatAddress (2 ^ 32 : ℕ)).toList = "0x100000000".toList ∧
      formatAddress (2 ^ 32 : ℕ) ≠ formatAddress (2 ^ 32 - 1 : ℕ) ∧
      formatAddress (0x58360 : ℕ) < formatAddress (0x8095860 : ℕ) ∧
      pair.Nonnegative ∧
      pair.text ≠ AddressPair.text ⟨0x8095860, 0x58360⟩ ∧
      AddressPair.named? (DiffError.rejected .function pair 3 "no room (0x1, 0x2)" none
        .unknown).message.toList = some pair ∧
      request.HasRoom Sample.console ∧
      ∃ output, request.output Sample.console .function [pair, ⟨2 ^ 32, 0⟩] = .ok output ∧
        request.listed output = some [pair, ⟨2 ^ 32, 0⟩] := by
  intro pair request
  obtain ⟨htexts, hdifferent, horder, hpairs, hnamed, hlists⟩ := formatAddress_identifies
  have hpair : pair.Nonnegative := ⟨by decide, by decide⟩
  have hturned : AddressPair.Nonnegative ⟨0x8095860, 0x58360⟩ := ⟨by decide, by decide⟩
  have hbounded : ∀ listed ∈ [pair, ⟨2 ^ 32, 0⟩], MatchesRequest.Bounded listed := by
    simp [pair, MatchesRequest.Bounded]
  have hlength : (formatAddress (0x58360 : ℕ)).length = (formatAddress (0x8095860 : ℕ)).length := by
    decide +kernel
  have hroom : request.HasRoom Sample.console := fun _ => by decide
  refine ⟨?_, fun hsame => absurd (hdifferent _ _ hsame) (by decide),
    (horder _ _ hlength).mpr (by decide), hpair, fun hsame => ?_, (hnamed pair hpair).2.1 _ _ _ _ _,
    hroom, hlists request .function _ _ hroom hbounded⟩
  · exact (htexts (2 ^ 32)).1.trans (by decide)
  · exact absurd (hpairs _ _ hpair hturned hsame).1 (by decide)

end BinaryDiff
