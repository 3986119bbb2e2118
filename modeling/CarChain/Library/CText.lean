import Mathlib.Algebra.Group.Int.Defs
import Mathlib.Algebra.GroupWithZero.Nat
import Mathlib.Data.List.TakeWhile
import CarChain.Library.CStandard

/-! Reading and splitting text in C: `strchr`, `strtol` and `atoi`, `fgets`, `strtok`. -/

namespace CStandard

-----------------------------------------------------------------------------------------
-- Searching and converting
-----------------------------------------------------------------------------------------

/-- The parts before and behind the byte that `strchr` finds. -/
def CString.strchr (text : CString) (byte : UInt8) : Option (CString × CString) :=
  if byte ∈ text.bytes then
    some (
      ⟨text.bytes.takeWhile (· ≠ byte), fun h => text.noNul (List.takeWhile_subset _ h)⟩,
      ⟨
        (text.bytes.dropWhile (· ≠ byte)).tail,
        fun h => text.noNul (List.dropWhile_subset _ (List.mem_of_mem_tail h))
      ⟩
    )
  else
    none

/-- The first of several separators is found. -/
theorem CString.strchr_append {front : CString} {byte : UInt8} (apart : byte ∉ front.bytes)
    {separator : CString} (single : separator.bytes = [byte]) (back : CString)
    : (front ++ separator ++ back).strchr byte = some (front, back) := by
  have whole : (front ++ separator ++ back).bytes = front.bytes ++ byte :: back.bytes := by
    simp [single]
  have before : ∀ other ∈ front.bytes, decide (other ≠ byte) = true := by
    intro other member
    exact decide_eq_true (fun same => apart (same ▸ member))
  have member : byte ∈ (front ++ separator ++ back).bytes := by simp [whole]
  rw [strchr, if_pos member]
  refine congrArg some (Prod.ext (ext ?_) (ext ?_))
  · show (front ++ separator ++ back).bytes.takeWhile _ = _
    rw [whole, List.takeWhile_append_of_pos before]
    simp
  · show ((front ++ separator ++ back).bytes.dropWhile _).tail = _
    rw [whole, List.dropWhile_append_of_pos before]
    simp

/-- `isspace` in the C locale. -/
def isSpace (byte : UInt8) : Bool := byte = 32 ∨ 9 ≤ byte ∧ byte ≤ 13

def isDigit (byte : UInt8) : Bool := 48 ≤ byte ∧ byte ≤ 57

/-- The number that the leading digits spell. -/
def leadingNumber (bytes : List UInt8) : Nat :=
  (bytes.takeWhile isDigit).foldl (fun value byte => value * 10 + (byte.toNat - 48)) 0

/-- `strtol` with base 10, which stays within a `long` of 64 bits. -/
def strtol (bytes : List UInt8) : Int :=
  let clamp (value : Int) : Int := max (-2 ^ 63) (min value (2 ^ 63 - 1))
  match bytes.dropWhile isSpace with
  | 45 :: rest => clamp (-leadingNumber rest)
  | 43 :: rest => clamp (leadingNumber rest)
  | rest => clamp (leadingNumber rest)

/-- `atoi`: the low half of what `strtol` returns. -/
def atoi (text : CString) : Int32 := Int32.ofInt (strtol text.bytes)

-----------------------------------------------------------------------------------------
-- Reading lines
-----------------------------------------------------------------------------------------

/-- At most this many bytes, up to the first newline, and what is left of the input. -/
def readLine : Nat → List UInt8 → List UInt8 × List UInt8
  | 0, input => ([], input)
  | _ + 1, [] => ([], [])
  | room + 1, byte :: rest =>
      if byte = 10 then ([10], rest)
      else (byte :: (readLine room rest).1, (readLine room rest).2)

/-- `fgets` into a buffer of this size: NULL at the end of the input. -/
def fgets (size : Nat) (input : List UInt8) : Option (List UInt8 × List UInt8) :=
  if input = [] then none else some (readLine (size - 1) input)

/-- What is read fits in the room for it, by induction on the room. -/
theorem length_readLine_le (room : Nat) (input : List UInt8)
    : (readLine room input).1.length ≤ room := by
  induction room generalizing input with
  | zero => exact Nat.le_refl 0
  | succ room ih =>
      cases input with
      | nil => exact Nat.zero_le _
      | cons byte rest =>
          rw [readLine]
          split
          · exact Nat.succ_le_succ (Nat.zero_le room)
          · exact Nat.succ_le_succ (ih rest)

theorem length_le_of_fgets {size : Nat} {input line rest : List UInt8}
    (read : fgets size input = some (line, rest))
    : line.length ≤ size - 1 := by
  unfold fgets at read
  split at read
  · cases read
  · have same : (readLine (size - 1) input).1 = line :=
      congrArg Prod.fst (Option.some.inj read)
    rw [← same]
    exact length_readLine_le (size - 1) input

/-- A line and what is left are the whole input, by induction on the room. -/
theorem readLine_append (room : Nat) (input : List UInt8)
    : (readLine room input).1 ++ (readLine room input).2 = input := by
  induction room generalizing input with
  | zero => rfl
  | succ room ih =>
      cases input with
      | nil => rfl
      | cons byte rest =>
          rw [readLine]
          split
          · rename_i newline
            simp [newline]
          · rw [List.cons_append, ih]

/-- Into a buffer with room for a byte, `fgets` reads at least one. -/
theorem length_lt_of_fgets {size : Nat} {input line rest : List UInt8}
    (read : fgets (size + 2) input = some (line, rest))
    : rest.length < input.length := by
  cases input with
  | nil => cases read
  | cons byte later =>
      have same : readLine (size + 1) (byte :: later) = (line, rest) := Option.some.inj read
      have whole := congrArg List.length (readLine_append (size + 1) (byte :: later))
      have filled : line ≠ [] := by
        rintro rfl
        rw [readLine] at same
        split at same <;> cases same
      rw [same, List.length_append] at whole
      dsimp only at whole
      have positive := List.length_pos_iff.mpr filled
      omega

/-- The bytes before the first one that stops them, as `strcspn` counts them. -/
def before (stop : UInt8) (bytes : List UInt8) : List UInt8 := bytes.takeWhile (· ≠ stop)

theorem before_of_notMem {stop : UInt8} {bytes : List UInt8} (h : stop ∉ bytes)
    : before stop bytes = bytes := by
  rw [before, List.takeWhile_eq_self_iff]
  intro byte member
  exact decide_eq_true (fun same => h (same ▸ member))

theorem before_append_stop {stop : UInt8} {bytes : List UInt8} (h : stop ∉ bytes)
    (rest : List UInt8)
    : before stop (bytes ++ stop :: rest) = bytes := by
  have each : ∀ byte ∈ bytes, decide (byte ≠ stop) = true := by
    intro byte member
    exact decide_eq_true (fun same => h (same ▸ member))
  rw [before, List.takeWhile_append_of_pos each]
  simp

/-- Newline-terminated lines. -/
def unlines (lines : List (List UInt8)) : List UInt8 := lines.flatMap (· ++ [10])

@[simp]
theorem unlines_cons (line : List UInt8) (lines : List (List UInt8))
    : unlines (line :: lines) = line ++ 10 :: unlines lines := by
  simp [unlines]

/-- There is a newline for each text and one for each inside them, by induction on the texts. -/
theorem count_unlines (texts : List (List UInt8))
    : (unlines texts).count 10 = texts.length + (texts.map (List.count 10)).sum := by
  induction texts with
  | nil => rfl
  | cons text texts ih =>
      simp only [unlines_cons, List.count_append, List.count_cons_self, ih, List.length_cons,
        List.map_cons, List.sum_cons]
      omega

/-- Lines without newlines inside them make up as many newlines as there are lines. -/
theorem count_unlines_of_notMem {lines : List (List UInt8)} (single : ∀ line ∈ lines, 10 ∉ line)
    : (unlines lines).count 10 = lines.length := by
  have none : (lines.map (List.count 10)).sum = 0 := by
    rw [List.sum_eq_zero_iff_forall_eq_nat]
    intro count counted
    obtain ⟨line, member, rfl⟩ := List.mem_map.mp counted
    exact List.count_eq_zero.mpr (single line member)
  rw [count_unlines, none, Nat.add_zero]

/-- Texts that make up no more lines than there are texts hold no newlines themselves. -/
theorem notMem_of_unlines_eq {texts lines : List (List UInt8)}
    (same : unlines texts = unlines lines) (single : ∀ line ∈ lines, 10 ∉ line)
    (length : texts.length = lines.length)
    : ∀ text ∈ texts, 10 ∉ text := by
  have both := congrArg (List.count 10) same
  rw [count_unlines, count_unlines_of_notMem single, length] at both
  have zero : (texts.map (List.count 10)).sum = 0 := by omega
  intro text member
  exact List.count_eq_zero.mp
    (List.sum_eq_zero_iff_forall_eq_nat.mp zero _ (List.mem_map.mpr ⟨text, member, rfl⟩))

/-- A line that fits is read with its newline, by induction on it. -/
theorem readLine_of_lt {line : List UInt8} (single : 10 ∉ line) (rest : List UInt8) {room : Nat}
    (fits : line.length < room)
    : readLine room (line ++ 10 :: rest) = (line ++ [10], rest) := by
  obtain ⟨room, rfl⟩ := Nat.exists_eq_succ_of_ne_zero (Nat.ne_of_gt (Nat.zero_lt_of_lt fits))
  induction line generalizing room with
  | nil => simp [readLine]
  | cons byte line ih =>
      have other : byte ≠ 10 := fun same => single (by simp [same])
      obtain ⟨room, rfl⟩ := Nat.exists_eq_succ_of_ne_zero
        (show room ≠ 0 by rw [List.length_cons] at fits; omega)
      have later := ih (fun member => single (List.mem_cons_of_mem _ member)) room
        (by simpa using fits)
      rw [List.cons_append, readLine, if_neg other, later]
      rfl

/-- Of a longer line only as much is read as there is room for, by induction on the room. -/
theorem readLine_of_le {line : List UInt8} (single : 10 ∉ line) (rest : List UInt8) {room : Nat}
    (full : room ≤ line.length)
    : readLine room (line ++ 10 :: rest) = (line.take room, line.drop room ++ 10 :: rest) := by
  induction room generalizing line with
  | zero => simp [readLine]
  | succ room ih =>
      cases line with
      | nil => simp at full
      | cons byte line =>
          have other : byte ≠ 10 := fun same => single (by simp [same])
          have later := ih (fun member => single (List.mem_cons_of_mem _ member))
            (show room ≤ line.length by simpa using full)
          rw [List.cons_append, readLine, if_neg other, later]
          rfl

/-- The pieces of a line that is read with this much room at a time; the last may be empty. -/
def pieces (room : Nat) (line : List UInt8) : List (List UInt8) :=
  (List.range (line.length / room + 1)).map (fun index => (line.drop (room * index)).take room)

/-- A line that fits is one piece. -/
theorem pieces_of_lt {room : Nat} {line : List UInt8} (fits : line.length < room)
    : pieces room line = [line] := by
  rw [pieces, Nat.div_eq_of_lt fits]
  simp [List.take_of_length_le (Nat.le_of_lt fits)]

/-- A longer line starts with a full piece. -/
theorem pieces_of_le {room : Nat} {line : List UInt8} (positive : 0 < room)
    (full : room ≤ line.length)
    : pieces room line = line.take room :: pieces room (line.drop room) := by
  have count : line.length / room = (line.drop room).length / room + 1 := by
    rw [List.length_drop, Nat.div_eq_sub_div positive full]
  rw [pieces, pieces, count, List.range_succ_eq_map, List.map_cons, List.map_map]
  refine congr (congrArg _ (by simp)) (List.map_congr_left (fun index _ => ?_))
  simp only [Function.comp_apply, List.drop_drop, Nat.succ_eq_add_one, Nat.mul_add, Nat.mul_one,
    Nat.add_comm]

/-- The pieces make up the line, by induction on its length. -/
theorem flatten_pieces {room : Nat} (positive : 0 < room) (line : List UInt8)
    : (pieces room line).flatten = line := by
  generalize size : line.length = length
  induction length using Nat.strongRecOn generalizing line with
  | ind length ih =>
      by_cases fits : line.length < room
      · simp [pieces_of_lt fits]
      · have shorter : (line.drop room).length < length := by
          rw [List.length_drop]
          omega
        rw [pieces_of_le positive (Nat.le_of_not_lt fits), List.flatten_cons,
          ih _ shorter (line.drop room) rfl, List.take_append_drop]

-----------------------------------------------------------------------------------------
-- Splitting into tokens
-----------------------------------------------------------------------------------------

section

variable {delimits : UInt8 → Bool}

/-- `strtok`: the next token, and what is left behind the delimiter that ends it. -/
def strtok (delimits : UInt8 → Bool) (text : List UInt8) : Option (List UInt8 × List UInt8) :=
  match text.dropWhile delimits with
  | [] => none
  | start =>
      some
        (
          start.takeWhile (fun byte => !delimits byte),
          (start.dropWhile (fun byte => !delimits byte)).tail
        )

/-- The loop that takes tokens until there are none left or as many as it may take. -/
def tokenize (delimits : UInt8 → Bool) : Nat → List UInt8 → List (List UInt8)
  | 0, _ => []
  | limit + 1, text =>
      match strtok delimits text with
      | none => []
      | some (token, rest) => token :: tokenize delimits limit rest

/-- All tokens of a text; each of them takes at least one byte. -/
def tokens (delimits : UInt8 → Bool) (text : List UInt8) : List (List UInt8) :=
  tokenize delimits text.length text

theorem strtok_eq_none {text : List UInt8}
    : strtok delimits text = none ↔ ∀ byte ∈ text, delimits byte = true := by
  rw [← List.dropWhile_eq_nil_iff, strtok]
  split <;> simp_all

/-- A text with another byte starts with a token behind its leading delimiters. -/
theorem strtok_of_ne_nil {text : List UInt8} (start : text.dropWhile delimits ≠ [])
    : strtok delimits text
      = some (
          (text.dropWhile delimits).takeWhile (fun byte => !delimits byte),
          ((text.dropWhile delimits).dropWhile (fun byte => !delimits byte)).tail
        ) := by
  rw [strtok]
  split
  · contradiction
  · rfl

/-- A token leaves less text behind it. -/
theorem length_lt_of_strtok {text token rest : List UInt8}
    (h : strtok delimits text = some (token, rest))
    : rest.length < text.length := by
  unfold strtok at h
  split at h
  · cases h
  · rename_i start found
    cases h
    have first := List.length_dropWhile_le delimits text
    have second := List.length_dropWhile_le (fun byte => !delimits byte) (text.dropWhile delimits)
    have positive := List.length_pos_of_ne_nil found
    rw [List.length_tail]
    omega

/-- Tokens are stretches of the text without delimiters, by induction on the limit. -/
theorem mem_tokenize {limit : Nat} {text token : List UInt8}
    (member : token ∈ tokenize delimits limit text)
    : token ≠ []
      ∧ token.length ≤ text.length
      ∧ ∀ byte ∈ token, delimits byte = false ∧ byte ∈ text := by
  induction limit generalizing text with
  | zero => cases member
  | succ limit ih =>
      rw [tokenize] at member
      cases start : text.dropWhile delimits with
      | nil =>
          rw [strtok_eq_none.mpr (List.dropWhile_eq_nil_iff.mp start)] at member
          cases member
      | cons first more =>
          have found := strtok_of_ne_nil (List.ne_nil_of_mem (start ▸ List.mem_cons_self))
          have behind : (text.dropWhile delimits).Sublist text := List.dropWhile_sublist _
          rw [found] at member
          rcases List.mem_cons.mp member with rfl | later
          · have begins : delimits first = false := by
              simpa [start] using List.head?_dropWhile_not delimits text
            have token : ((text.dropWhile delimits).takeWhile (fun byte => !delimits byte)).Sublist
                (text.dropWhile delimits) := List.takeWhile_sublist _
            refine ⟨?_, (token.trans behind).length_le, fun byte member => ?_⟩
            · rw [start, List.takeWhile_cons_of_pos (by simp [begins])]
              exact List.cons_ne_nil _ _
            · exact ⟨by simpa using List.mem_takeWhile_imp member,
                (token.trans behind).subset member⟩
          · obtain ⟨nonempty, short, plain⟩ := ih later
            have rest : ((text.dropWhile delimits).dropWhile (fun byte => !delimits byte)).tail
                |>.Sublist text :=
              (List.tail_sublist _).trans ((List.dropWhile_sublist _).trans behind)
            exact ⟨nonempty, short.trans rest.length_le,
              fun byte member => ⟨(plain byte member).1, rest.subset (plain byte member).2⟩⟩

/-- Beyond the length of a text the limit makes no difference, by induction on it. -/
theorem tokenize_of_le {text : List UInt8} {limit : Nat} (enough : text.length ≤ limit)
    : tokenize delimits limit text = tokens delimits text := by
  have same : ∀ (limit more : Nat) (text : List UInt8),
      text.length ≤ limit
      → text.length ≤ more
      → tokenize delimits limit text = tokenize delimits more text := by
    intro limit
    induction limit with
    | zero =>
        intro more text enough _
        have empty := List.length_eq_zero_iff.mp (Nat.le_zero.mp enough)
        subst empty
        cases more <;> rfl
    | succ limit ih =>
        intro more text enough also
        cases more with
        | zero =>
            have empty := List.length_eq_zero_iff.mp (Nat.le_zero.mp also)
            subst empty
            rfl
        | succ more =>
            rw [tokenize, tokenize]
            cases found : strtok delimits text with
            | none => rfl
            | some next =>
                have less := length_lt_of_strtok found
                exact congrArg (next.1 :: ·) (ih more next.2 (by omega) (by omega))
  exact same limit text.length text enough (Nat.le_refl _)

/-- A lower limit takes the first of the tokens, by induction on it. -/
theorem tokenize_eq_take (limit : Nat) (text : List UInt8)
    : tokenize delimits limit text = (tokens delimits text).take limit := by
  have fewer : ∀ (limit more : Nat) (text : List UInt8),
      tokenize delimits limit text = (tokenize delimits (limit + more) text).take limit := by
    intro limit more
    induction limit with
    | zero => exact fun text => rfl
    | succ limit ih =>
        intro text
        rw [Nat.add_right_comm, tokenize, tokenize]
        cases strtok delimits text with
        | none => rfl
        | some next => exact congrArg (next.1 :: ·) (ih next.2)
  rw [fewer limit text.length, tokenize_of_le (Nat.le_add_left _ _)]

/-- A text has no tokens when it consists of delimiters. -/
theorem tokens_eq_nil {text : List UInt8}
    : tokens delimits text = [] ↔ ∀ byte ∈ text, delimits byte = true := by
  rw [← strtok_eq_none, tokens]
  cases text with
  | nil => exact iff_of_true rfl rfl
  | cons byte rest =>
      rw [List.length_cons, tokenize]
      cases strtok delimits (byte :: rest) <;> simp

/-- Delimiters before a text add no tokens. -/
theorem tokens_append_left {front : List UInt8} (blank : ∀ byte ∈ front, delimits byte = true)
    (text : List UInt8)
    : tokens delimits (front ++ text) = tokens delimits text := by
  have skipped : strtok delimits (front ++ text) = strtok delimits text := by
    rw [strtok, strtok, List.dropWhile_append_of_pos blank]
  rw [← tokenize_of_le (Nat.le_add_right text.length front.length), tokens, List.length_append,
    Nat.add_comm]
  cases text.length + front.length with
  | zero => rfl
  | succ limit => rw [tokenize, tokenize, skipped]

/-- A token ends before the delimiters behind a text; only they can be left then. -/
theorem strtok_append_right {text token rest back : List UInt8}
    (blank : ∀ byte ∈ back, delimits byte = true)
    (found : strtok delimits text = some (token, rest))
    : strtok delimits (text ++ back) = some (token, rest ++ back)
      ∨ rest = [] ∧ strtok delimits (text ++ back) = some (token, back.tail) := by
  have stops : back.takeWhile (fun byte => !delimits byte) = [] := by
    cases back with
    | nil => rfl
    | cons byte back => simp [blank byte (by simp)]
  have kept : back.dropWhile (fun byte => !delimits byte) = back := by
    cases back with
    | nil => rfl
    | cons byte back => simp [blank byte (by simp)]
  have start : text.dropWhile delimits ≠ [] := by
    intro nothing
    have ended := strtok_eq_none.mpr (List.dropWhile_eq_nil_iff.mp nothing)
    exact absurd (found.symm.trans ended) (by simp)
  have longer : (text ++ back).dropWhile delimits = text.dropWhile delimits ++ back := by
    rw [List.dropWhile_append, if_neg (by simpa using start)]
  rw [strtok_of_ne_nil start] at found
  cases found
  rw [strtok_of_ne_nil (by simp [longer, start]), longer]
  generalize text.dropWhile delimits = word at start
  by_cases ended : word.dropWhile (fun byte => !delimits byte) = []
  · have whole : word.takeWhile (fun byte => !delimits byte) = word :=
      List.takeWhile_eq_self_iff.mpr (List.dropWhile_eq_nil_iff.mp ended)
    refine .inr ⟨by simp [ended], ?_⟩
    rw [List.takeWhile_append, whole, if_pos rfl, stops, List.append_nil, List.dropWhile_append,
      if_pos (by simp [ended]), kept]
  · have split : word.takeWhile (fun byte => !delimits byte) ≠ word :=
      fun whole => ended (List.dropWhile_eq_nil_iff.mpr (List.takeWhile_eq_self_iff.mp whole))
    have shorter : (word.takeWhile (fun byte => !delimits byte)).length ≠ word.length :=
      fun same => split ((List.takeWhile_prefix _).eq_of_length same)
    refine .inl ?_
    rw [List.takeWhile_append, if_neg shorter, List.dropWhile_append,
      if_neg (by simpa using ended), List.tail_append_of_ne_nil ended]

/-- Delimiters behind a text add no tokens, by induction on the limit. -/
theorem tokens_append_right {back : List UInt8} (blank : ∀ byte ∈ back, delimits byte = true)
    (text : List UInt8)
    : tokens delimits (text ++ back) = tokens delimits text := by
  have each : ∀ (limit : Nat) (text : List UInt8),
      tokenize delimits limit (text ++ back) = tokenize delimits limit text := by
    intro limit
    induction limit with
    | zero => exact fun text => rfl
    | succ limit ih =>
        intro text
        rw [tokenize, tokenize]
        cases found : strtok delimits text with
        | none =>
            have whole : strtok delimits (text ++ back) = none := by
              rw [strtok_eq_none] at found ⊢
              intro byte member
              exact (List.mem_append.mp member).elim (found byte) (blank byte)
            rw [whole]
        | some next =>
            rcases strtok_append_right blank found with longer | ⟨ended, longer⟩
            · rw [longer]
              exact congrArg (next.1 :: ·) (ih next.2)
            · have nothing : tokens delimits back.tail = [] :=
                tokens_eq_nil.mpr (fun byte member => blank byte (List.mem_of_mem_tail member))
              rw [longer]
              dsimp only
              rw [ended, tokenize_eq_take, tokenize_eq_take, nothing]
              rfl
  rw [tokens, each, tokenize_of_le]
  simp

/-- Tokens start again behind a word and the delimiter that ends it. -/
theorem tokens_of_word {word : List UInt8} (whole : ∀ byte ∈ word, delimits byte = false)
    {stop : UInt8} (stops : delimits stop = true) (rest : List UInt8)
    : tokens delimits (word ++ stop :: rest)
      = if word = [] then tokens delimits rest else word :: tokens delimits rest := by
  cases word with
  | nil =>
      have blank : ∀ byte ∈ [stop], delimits byte = true := by simp [stops]
      exact tokens_append_left blank rest
  | cons byte word =>
      have first : delimits byte = false := whole byte (by simp)
      have later : ∀ byte ∈ word, (!delimits byte) = true := by
        intro byte member
        simp [whole byte (List.mem_cons_of_mem _ member)]
      have found : strtok delimits (byte :: word ++ stop :: rest) = some (byte :: word, rest) := by
        rw [strtok_of_ne_nil (by simp [first])]
        simp [first, stops, List.takeWhile_append_of_pos later,
          List.dropWhile_append_of_pos later]
      rw [if_neg (by simp), tokens]
      rw [List.cons_append, List.length_cons, tokenize, ← List.cons_append, found]
      exact congrArg (_ :: ·) (tokenize_of_le (by simp; omega))

/-- A word without delimiters is its only token. -/
theorem tokens_of_last {word : List UInt8} (whole : ∀ byte ∈ word, delimits byte = false)
    : tokens delimits word = if word = [] then [] else [word] := by
  cases word with
  | nil => rfl
  | cons byte word =>
      have first : delimits byte = false := whole byte (by simp)
      have later : ∀ byte ∈ word, (!delimits byte) = true := by
        intro byte member
        simp [whole byte (List.mem_cons_of_mem _ member)]
      have found : strtok delimits (byte :: word) = some (byte :: word, []) := by
        rw [strtok_of_ne_nil (by simp [first])]
        simp [first, List.takeWhile_eq_self_iff.mpr later, List.dropWhile_eq_nil_iff.mpr later]
      rw [if_neg (by simp), tokens, List.length_cons, tokenize, found]
      exact congrArg (_ :: ·) (tokenize_of_le (Nat.zero_le _))

/-- The tokens are the stretches between delimiters that are not empty, by induction on the
length of the text.
-/
theorem tokens_eq_splitOnP (text : List UInt8)
    : tokens delimits text = (text.splitOnP delimits).filter (· ≠ []) := by
  generalize size : text.length = length
  induction length using Nat.strongRecOn generalizing text with
  | ind length ih =>
      have whole : ∀ byte ∈ text.takeWhile (fun byte => !delimits byte), delimits byte = false := by
        intro byte member
        simpa using List.mem_takeWhile_imp member
      cases found : text.dropWhile (fun byte => !delimits byte) with
      | nil =>
          have same : text.takeWhile (fun byte => !delimits byte) = text :=
            List.takeWhile_eq_self_iff.mpr (List.dropWhile_eq_nil_iff.mp found)
          rw [same] at whole
          rw [tokens_of_last whole, List.splitOnP_eq_singleton whole]
          by_cases empty : text = [] <;> simp [empty]
      | cons stop rest =>
          have stops : delimits stop = true := by
            have head := List.head?_dropWhile_not (fun byte => !delimits byte) text
            simpa [found] using head
          have split : text = text.takeWhile (fun byte => !delimits byte) ++ stop :: rest := by
            rw [← found, List.takeWhile_append_dropWhile]
          have shorter : rest.length < length := by
            rw [← size, split]
            simp
            omega
          rw [split, tokens_of_word whole stops, ih _ shorter rest rfl,
            List.splitOnP_append_cons_of_forall_mem whole stop stops]
          by_cases empty : text.takeWhile (fun byte => !delimits byte) = [] <;> simp [empty]

end

end CStandard
