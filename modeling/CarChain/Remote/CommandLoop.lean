import CarChain.Library.CText

/-! The command loop of the client (`list_client.c`).

The loop reads its input into a buffer of 256 bytes, so a line of 255 bytes or more arrives in
pieces. Each piece is split into words and dispatched like a line. Every call is recorded with
the number of newlines read before it, so that the calls can be compared with the lines.
-/

namespace CarChain

open CStandard

/-- `MAX_ARGS`. -/
def maxArgs : Nat := 7

/-- The delimiters of words, space and tab. -/
def isBlank (byte : UInt8) : Bool := byte = 32 ∨ byte = 9

/-- The functions that `commands` names. -/
inductive Command where
  | commandAdd
  | commandGetByMarca
  | commandGetByYear
  | commandGetModelList
  | commandGetListOrderedByYear
  | commandRemove
  | commandSize
  | cmdHelp
  | commandQuit
  deriving DecidableEq

def commands : List (CString × Command) :=
  [
    (.literal "add", .commandAdd),
    (.literal "get_by_marca", .commandGetByMarca),
    (.literal "get_by_year", .commandGetByYear),
    (.literal "get_model_list", .commandGetModelList),
    (.literal "get_list_ordered_by_year", .commandGetListOrderedByYear),
    (.literal "remove", .commandRemove),
    (.literal "size", .commandSize),
    (.literal "help", .cmdHelp),
    (.literal "quit", .commandQuit)
  ]

/-- The function that `dispatch_command` calls, with the words behind the first. -/
def dispatchCommand : List (List UInt8) → Option (Command × List (List UInt8))
  | [] => none
  | cmd :: args =>
      (commands.find? (fun entry => strcmpBytes cmd entry.1.bytes = 0)).map
        (fun entry => (entry.2, args))

/-- Whether a call sets `quitSignal`, which only `commandQuit` does. -/
def quits (argv : List (List UInt8)) : Bool :=
  (dispatchCommand argv).map Prod.fst = some .commandQuit

/-- A call of `dispatch_command`, with the number of newlines read before its words. -/
structure DispatchCall where
  line : Nat
  argv : List (List UInt8)
  deriving DecidableEq

/-- The words that are taken from the buffer. -/
def words (input : List UInt8) : List (List UInt8) := tokenize isBlank maxArgs input

/-- The calls that the loop of `main` makes on an input, which takes one round for each piece
that `fgets` reads; `none` when the bound on the rounds is reached.
-/
def mainLoop : Nat → Nat → List UInt8 → Option (List DispatchCall)
  | 0, _, _ => none
  | bound + 1, line, stdin =>
      match fgets 256 stdin with
      | none => some []
      | some (input, stdin) =>
          let next := if 10 ∈ input then line + 1 else line
          let command := before 10 (before 0 input)
          if command = [] then
            mainLoop bound next stdin
          else if quits (words command) then
            some [⟨line, words command⟩]
          else
            (mainLoop bound next stdin).map (⟨line, words command⟩ :: ·)

/-- The calls made on a whole input; each round takes at least one of its bytes. -/
def commandCalls (stdin : List UInt8) : Option (List DispatchCall) :=
  mainLoop (stdin.length + 1) 0 stdin

/-- A bound above the length of the input is never reached, by induction on the bound. -/
theorem mainLoop_isSome {bound : Nat} {stdin : List UInt8} (enough : stdin.length < bound)
    (line : Nat)
    : (mainLoop bound line stdin).isSome = true := by
  induction bound generalizing line stdin with
  | zero => exact absurd enough (Nat.not_lt_zero _)
  | succ bound ih =>
      unfold mainLoop
      cases read : fgets 256 stdin with
      | none => rfl
      | some taken =>
          have later := ih (Nat.lt_of_lt_of_le (length_lt_of_fgets read) (Nat.le_of_lt_succ enough))
          dsimp only
          generalize (if 10 ∈ taken.1 then line + 1 else line) = next
          split_ifs
          · exact later next
          · rfl
          · rw [Option.isSome_map]
            exact later next

/-- The words of each call that is made on an input. -/
def inputWords (stdin : List UInt8) : List (List (List UInt8)) :=
  ((commandCalls stdin).getD []).map DispatchCall.argv

-----------------------------------------------------------------------------------------
-- One call a line
-----------------------------------------------------------------------------------------

/-- The first words of a line: the stretches between blanks that are not empty. -/
def lineWords (line : List UInt8) : List (List UInt8) :=
  ((line.splitOnP isBlank).filter (· ≠ [])).take maxArgs

/-- One call for each line that is not blank, up to the first that quits. -/
def lineCalls : Nat → List (List UInt8) → List DispatchCall
  | _, [] => []
  | number, line :: later =>
      if line.all isBlank then
        lineCalls (number + 1) later
      else if quits (lineWords line) then
        [⟨number, lineWords line⟩]
      else
        ⟨number, lineWords line⟩ :: lineCalls (number + 1) later

/-- The loop comes to an end, and the calls with at least one word are those of the lines. -/
def OneLineOneCommand (lines : List (List UInt8)) : Prop :=
  ∃ calls,
    commandCalls (unlines lines) = some calls
    ∧ calls.filter (·.argv ≠ []) = lineCalls 0 lines

/-- The pieces of a line that hold more than blanks. -/
def spoken (line : List UInt8) : List (List UInt8) :=
  (pieces 255 line).filter (fun piece => !piece.all isBlank)

/-- All that a line says is in one piece, or it quits and its first words are. -/
def ReadWhole (line : List UInt8) : Prop :=
  (spoken line).length ≤ 1
  ∨ quits (lineWords line) ∧ (spoken line).head?.map lineWords = some (lineWords line)

instance : DecidablePred ReadWhole :=
  fun line =>
    inferInstanceAs (
      Decidable (
        (spoken line).length ≤ 1
        ∨ quits (lineWords line) ∧ (spoken line).head?.map lineWords = some (lineWords line)
      )
    )

/-- The lines up to the first that quits. -/
def upToQuit : List (List UInt8) → List (List UInt8)
  | [] => []
  | line :: later => line :: if quits (lineWords line) then [] else upToQuit later

-----------------------------------------------------------------------------------------
-- Rounds of the loop
-----------------------------------------------------------------------------------------

/-- The words taken are the first of the text. -/
theorem words_eq (text : List UInt8) : words text = lineWords text := by
  rw [words, tokenize_eq_take, tokens_eq_splitOnP, lineWords]

/-- A text has no words when it is blank. -/
theorem words_eq_nil {text : List UInt8} : words text = [] ↔ text.all isBlank := by
  rw [words, tokenize_eq_take, List.take_eq_nil_iff, tokens_eq_nil, List.all_eq_true]
  exact or_iff_right (by decide)

/-- What a round adds before the calls of later rounds. -/
def addPiece (line : Nat) (command : List UInt8) (later : List DispatchCall)
    : List DispatchCall :=
  if command = [] then later
  else if quits (words command) then [⟨line, words command⟩]
  else ⟨line, words command⟩ :: later

/-- The loop finishes with these calls when the bound on its rounds allows it. -/
def Makes (line : Nat) (stdin : List UInt8) (calls : List DispatchCall) : Prop :=
  ∀ bound, stdin.length < bound → mainLoop bound line stdin = some calls

theorem makes_nil (line : Nat) : Makes line [] [] := by
  intro bound enough
  obtain ⟨bound, rfl⟩ := Nat.exists_eq_succ_of_ne_zero (Nat.ne_of_gt enough)
  rfl

/-- One round: what is read adds its call, and the calls of the rest follow. -/
theorem makes_of_read {line next : Nat} {stdin input rest command : List UInt8}
    {later : List DispatchCall}
    (read : fgets 256 stdin = some (input, rest))
    (shorter : rest.length < stdin.length)
    (counted : (if 10 ∈ input then line + 1 else line) = next)
    (cut : before 10 (before 0 input) = command)
    (makes : Makes next rest later)
    : Makes line stdin (addPiece line command later) := by
  intro bound enough
  obtain ⟨bound, rfl⟩ := Nat.exists_eq_succ_of_ne_zero (Nat.ne_of_gt (Nat.zero_lt_of_lt enough))
  have finished := makes bound (by omega)
  rw [mainLoop, read]
  dsimp only
  rw [counted, cut, finished, addPiece]
  split_ifs <;> rfl

/-- The last piece of a line is read with the newline. -/
theorem makes_short {line : Nat} {text rest : List UInt8} {later : List DispatchCall}
    (textual : 10 ∉ text ∧ 0 ∉ text) (fits : text.length < 255)
    (makes : Makes (line + 1) rest later)
    : Makes line (text ++ 10 :: rest) (addPiece line text later) := by
  have noNul : 0 ∉ text ++ [10] := by simp [textual.2]
  refine makes_of_read ?_ ?_ (if_pos (show 10 ∈ text ++ [10] by simp)) ?_ makes
  · rw [fgets, if_neg (by simp)]
    exact congrArg some (readLine_of_lt textual.1 rest fits)
  · simp
    omega
  · rw [before_of_notMem noNul, before_append_stop textual.1]

/-- An earlier piece fills the buffer. -/
theorem makes_full {line : Nat} {text rest : List UInt8} {later : List DispatchCall}
    (textual : 10 ∉ text ∧ 0 ∉ text) (full : 255 ≤ text.length)
    (makes : Makes line (text.drop 255 ++ 10 :: rest) later)
    : Makes line (text ++ 10 :: rest) (addPiece line (text.take 255) later) := by
  have noNewline : 10 ∉ text.take 255 := fun member => textual.1 (List.mem_of_mem_take member)
  have noNul : 0 ∉ text.take 255 := fun member => textual.2 (List.mem_of_mem_take member)
  refine makes_of_read ?_ ?_ (if_neg noNewline) ?_ makes
  · rw [fgets, if_neg (by simp)]
    exact congrArg some (readLine_of_le textual.1 rest full)
  · simp
    omega
  · rw [before_of_notMem noNul, before_of_notMem noNewline]

/-- A line adds what its pieces add, by induction on its length. -/
theorem makes_line {line : Nat} {text rest : List UInt8} {later : List DispatchCall}
    (textual : 10 ∉ text ∧ 0 ∉ text) (makes : Makes (line + 1) rest later)
    : Makes line (text ++ 10 :: rest) ((pieces 255 text).foldr (addPiece line) later) := by
  generalize size : text.length = length
  induction length using Nat.strongRecOn generalizing text with
  | ind length ih =>
      by_cases fits : text.length < 255
      · rw [pieces_of_lt fits]
        exact makes_short textual fits makes
      · have full := Nat.le_of_not_lt fits
        have shorter : (text.drop 255).length < length := by
          rw [List.length_drop]
          omega
        rw [pieces_of_le (by decide) full]
        refine makes_full textual full (ih _ shorter ?_ rfl)
        exact ⟨
          fun member => textual.1 (List.mem_of_mem_drop member),
          fun member => textual.2 (List.mem_of_mem_drop member)
        ⟩

/-- The calls made on lines. -/
def linesCalls : Nat → List (List UInt8) → List DispatchCall
  | _, [] => []
  | number, line :: later =>
      (pieces 255 line).foldr (addPiece number) (linesCalls (number + 1) later)

/-- The loop makes these calls, by induction on the lines. -/
theorem makes_unlines {lines : List (List UInt8)}
    (textual : ∀ line ∈ lines, 10 ∉ line ∧ 0 ∉ line) (number : Nat)
    : Makes number (unlines lines) (linesCalls number lines) := by
  induction lines generalizing number with
  | nil => exact makes_nil number
  | cons line later ih =>
      have rest := ih (fun other member => textual other (List.mem_cons_of_mem _ member))
        (number + 1)
      rw [unlines_cons]
      exact makes_line (textual line (by simp)) rest

-----------------------------------------------------------------------------------------
-- Calls with words
-----------------------------------------------------------------------------------------

/-- What a piece with words adds. -/
def addSpoken (number : Nat) (command : List UInt8) (later : List DispatchCall)
    : List DispatchCall :=
  if quits (lineWords command) then [⟨number, lineWords command⟩]
  else ⟨number, lineWords command⟩ :: later

/-- The calls with words made on lines. -/
def spokenCalls (number : Nat) (lines : List (List UInt8)) : List DispatchCall :=
  (linesCalls number lines).filter (·.argv ≠ [])

/-- Only the pieces with words add calls with words, by induction on the pieces. -/
theorem filter_foldr_addPiece (number : Nat) (parts : List (List UInt8))
    (later : List DispatchCall)
    : (parts.foldr (addPiece number) later).filter (·.argv ≠ [])
      = (parts.filter (fun piece => !piece.all isBlank)).foldr (addSpoken number)
          (later.filter (·.argv ≠ [])) := by
  induction parts with
  | nil => rfl
  | cons piece parts ih =>
      rw [List.foldr_cons]
      by_cases blank : piece.all isBlank
      · have quiet : words piece = [] := words_eq_nil.mpr blank
        have stays : ¬quits (words piece) := by
          rw [quiet]
          decide
        rw [List.filter_cons_of_neg (by simp [blank]), ← ih, addPiece, if_neg stays]
        split
        · rfl
        · rw [List.filter_cons_of_neg (by simp [quiet])]
      · have said : words piece ≠ [] := fun quiet => blank (words_eq_nil.mp quiet)
        have filled : piece ≠ [] := by
          intro empty
          subst empty
          exact said rfl
        rw [List.filter_cons_of_pos (by simp [blank]), List.foldr_cons, ← ih, addPiece,
          if_neg filled, addSpoken, ← words_eq]
        split_ifs
        · exact List.filter_cons_of_pos (by simpa using said)
        · exact List.filter_cons_of_pos (by simpa using said)

theorem spokenCalls_cons (number : Nat) (line : List UInt8) (later : List (List UInt8))
    : spokenCalls number (line :: later)
      = (spoken line).foldr (addSpoken number) (spokenCalls (number + 1) later) :=
  filter_foldr_addPiece number (pieces 255 line) _

/-- Calls are numbered in order, by induction on the lines. -/
theorem le_of_mem_lineCalls {number : Nat} {lines : List (List UInt8)} {call : DispatchCall}
    (member : call ∈ lineCalls number lines)
    : number ≤ call.line := by
  induction lines generalizing number with
  | nil => cases member
  | cons line later ih =>
      rw [lineCalls] at member
      split_ifs at member
      · exact Nat.le_of_succ_le (ih member)
      · rw [List.mem_singleton.mp member]
      · rcases List.mem_cons.mp member with same | member
        · rw [same]
        · exact Nat.le_of_succ_le (ih member)

/-- What is said in one piece are the words of the line. -/
theorem words_of_spoken {line piece : List UInt8} (once : spoken line = [piece])
    : lineWords piece = lineWords line := by
  obtain ⟨front, back, split, quietFront, -, quietBack⟩ := List.filter_eq_cons_iff.mp once
  have whole : line = front.flatten ++ (piece ++ back.flatten) := by
    rw [← flatten_pieces (show 0 < 255 by decide) line, split]
    simp
  have blankFront : ∀ byte ∈ front.flatten, isBlank byte := by
    rw [← List.all_eq_true, List.all_flatten]
    simpa using quietFront
  have blankBack : ∀ byte ∈ back.flatten, isBlank byte := by
    rw [← List.all_eq_true, List.all_flatten]
    simpa using quietBack
  rw [lineWords, lineWords, ← tokens_eq_splitOnP, ← tokens_eq_splitOnP, whole,
    tokens_append_left blankFront, tokens_append_right blankBack]

/-- A line says nothing when it is blank. -/
theorem spoken_eq_nil {line : List UInt8} : spoken line = [] ↔ line.all isBlank := by
  have whole : line.all isBlank = (pieces 255 line).all (fun piece => piece.all isBlank) := by
    rw [← List.all_flatten, flatten_pieces (by decide)]
  rw [spoken, List.filter_eq_nil_iff, whole]
  simp

/-- A line that says something is read whole when its words are those of the first piece that
says something, which is the only one or quits.
-/
theorem readWhole_cons {line piece : List UInt8} {more : List (List UInt8)}
    (said : spoken line = piece :: more)
    : ReadWhole line
      ↔ lineWords piece = lineWords line ∧ (more = [] ∨ quits (lineWords line) = true) := by
  constructor
  · intro whole
    rcases whole with short | ⟨quit, first⟩
    · have alone : more = [] := by
        rw [said] at short
        simpa using short
      subst alone
      exact ⟨words_of_spoken said, .inl rfl⟩
    · rw [said] at first
      exact ⟨Option.some.inj first, .inr quit⟩
  · intro ⟨same, last⟩
    rcases last with alone | quit
    · exact .inl (by simp [said, alone])
    · exact .inr ⟨quit, by simp [said, same]⟩

/-- The calls with words are those of the lines exactly when every line up to the first that
quits is read whole, by induction on the lines and by the pieces that say something.
-/
theorem spokenCalls_eq_iff (number : Nat) (lines : List (List UInt8))
    : spokenCalls number lines = lineCalls number lines
      ↔ ∀ line ∈ upToQuit lines, ReadWhole line := by
  induction lines generalizing number with
  | nil => simp [spokenCalls, linesCalls, lineCalls, upToQuit]
  | cons line later ih =>
      rw [spokenCalls_cons, lineCalls, upToQuit, List.forall_mem_cons]
      cases said : spoken line with
      | nil =>
          have blank := spoken_eq_nil.mp said
          have stays : ¬quits (lineWords line) := by
            rw [← words_eq, words_eq_nil.mpr blank]
            decide
          have whole : ReadWhole line := .inl (by simp [said])
          rw [List.foldr_nil, if_pos blank, if_neg stays, ih, and_iff_right whole]
      | cons piece more =>
          have filled : ¬line.all isBlank := by
            rw [← spoken_eq_nil, said]
            simp
          rw [if_neg filled, List.foldr_cons, addSpoken, readWhole_cons said]
          by_cases same : lineWords piece = lineWords line
          · by_cases quit : quits (lineWords line)
            · simp [same, quit]
            · rw [same, if_neg quit, if_neg quit, if_neg quit, List.cons_inj_right]
              cases more with
              | nil => rw [List.foldr_nil, ih, and_iff_right ⟨rfl, .inl rfl⟩]
              | cons next more =>
                  -- The next call is still on this line.
                  refine iff_of_false ?_ (by simp [quit])
                  intro equal
                  have member : ⟨number, lineWords next⟩ ∈ lineCalls (number + 1) later := by
                    rw [← equal, List.foldr_cons, addSpoken]
                    split <;> simp
                  exact absurd (le_of_mem_lineCalls member) (by simp)
          · -- The first call has other words than the line.
            refine iff_of_false ?_ (fun both => same both.1.1)
            intro equal
            have first := congrArg (fun calls => calls.head?.map DispatchCall.argv) equal
            split_ifs at first <;> exact same (by simpa using first)

/-- Lines are commands exactly when each of them, up to the first that quits, is read whole. -/
theorem oneLineOneCommand_iff {lines : List (List UInt8)}
    (textual : ∀ line ∈ lines, 10 ∉ line ∧ 0 ∉ line)
    : OneLineOneCommand lines ↔ ∀ line ∈ upToQuit lines, ReadWhole line := by
  have finished : commandCalls (unlines lines) = some (linesCalls 0 lines) :=
    makes_unlines textual 0 _ (Nat.lt_succ_self _)
  rw [← spokenCalls_eq_iff 0, OneLineOneCommand, finished]
  constructor
  · intro ⟨calls, same, equal⟩
    cases same
    exact equal
  · intro equal
    exact ⟨_, rfl, equal⟩

/-- Two words with blanks between them. -/
def spaced (first : CString) (blanks : Nat) (second : CString) : List UInt8 :=
  first.bytes ++ List.replicate blanks 32 ++ second.bytes

/-- A line that only blanks make longer than the buffer is one command. -/
theorem oneLineOneCommand_iff_blanks
    : OneLineOneCommand
        [
          spaced (.literal "size") 300 (.literal ""),
          spaced (.literal "quit") 0 (.literal "")
        ] :=
  (oneLineOneCommand_iff (by decide +kernel)).mpr (by decide +kernel)

/-- A line whose second word starts in the second piece is two commands, and the second one
ends the loop.
-/
theorem not_oneLineOneCommand_spaced
    : ¬∀ lines : List (List UInt8),
        (∀ line ∈ lines, 10 ∉ line ∧ 0 ∉ line)
        → OneLineOneCommand lines := by
  intro claimed
  obtain ⟨calls, finished, same⟩ :=
    claimed [spaced (.literal "size") 251 (.literal "quit")] (by decide +kernel)
  have twice : commandCalls (unlines [spaced (.literal "size") 251 (.literal "quit")])
      = some [⟨0, [(CString.literal "size").bytes]⟩, ⟨0, [(CString.literal "quit").bytes]⟩] := by
    decide +kernel
  have once : lineCalls 0 [spaced (.literal "size") 251 (.literal "quit")]
      = [⟨0, [(CString.literal "size").bytes, (CString.literal "quit").bytes]⟩] := by
    decide +kernel
  rw [twice] at finished
  cases finished
  rw [once] at same
  exact absurd same (by decide +kernel)

end CarChain
