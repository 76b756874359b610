import CoffeeGrading.Proofs.Number.Digits
import CoffeeGrading.Timestamp

/-!
A point in time reads back from its text.  Every number of the text has a width of its own, so
that each is read up to where the next mark stands, and the hyphen behind the year keeps the text
from being taken for a number.
-/

namespace CoffeeGrading

namespace Timestamp

theorem digit?_digitChar : ∀ digit < 10, digit? (Nat.digitChar digit) = some digit := by
  decide

theorem isDigit_of_mem {width value : Nat} {character : Char}
    (listed : character ∈ lastDigits 10 width value) : character.isDigit = true := by
  obtain ⟨digit, below, rfl⟩ := digit_of_mem_lastDigits (by decide) listed
  have every : ∀ digit < 10, (Nat.digitChar digit).isDigit = true := by decide
  exact every digit below

theorem digits?_lastDigits {width value : Nat} (small : value < Nat.pow 10 width)
    (rest : List Char) : digits? width (lastDigits 10 width value ++ rest) = some (value, rest) := by
  have all (width : Nat) : digits? width (lastDigits 10 width value ++ rest) =
      some (value % Nat.pow 10 width, rest) := by
    induction width with
    | zero => simp [digits?, lastDigits, Nat.mod_one]
    | succ width ih =>
        have leading := digit?_digitChar _ (Nat.mod_lt (value / Nat.pow 10 width) (by decide))
        have whole : value % Nat.pow 10 (width + 1) =
            value / Nat.pow 10 width % 10 * Nat.pow 10 width + value % Nat.pow 10 width := by
          have power : Nat.pow 10 (width + 1) = Nat.pow 10 width * 10 := rfl
          rw [power, Nat.mod_mul, Nat.mul_comm (Nat.pow 10 width), Nat.add_comm]
        rw [lastDigits_succ, List.cons_append, digits?, leading, whole]
        simp [ih]
  rw [all, Nat.mod_eq_of_lt small]

theorem digits?_lastDigits_end {width value : Nat} (small : value < Nat.pow 10 width) :
    digits? width (lastDigits 10 width value) = some (value, []) := by
  have none_behind := digits?_lastDigits small []
  rwa [List.append_nil] at none_behind

/-! ### The text -/

theorem toList_padded {width value : Nat} (small : value < Nat.pow 10 (width + 1)) :
    (padded (width + 1) value).toList = lastDigits 10 (width + 1) value := by
  rw [padded, ← replicate_append_toDigits small]
  simp [Nat.repr]

def fractionCharacters (microsecond : Nat) : List Char :=
  if microsecond = 0 then [] else '.' :: lastDigits 10 6 microsecond

def offsetCharacters : Option Int → List Char
  | none => []
  | some minutes =>
    if minutes = 0 then ['Z']
    else (if minutes < 0 then '-' else '+') :: (lastDigits 10 2 (minutes.natAbs / 60) ++
      ':' :: lastDigits 10 2 (minutes.natAbs % 60))

theorem offset_small {minutes : Int} (near : minutes.natAbs < 1440) :
    minutes.natAbs / 60 < Nat.pow 10 2 ∧ minutes.natAbs % 60 < Nat.pow 10 2 :=
  ⟨Nat.div_lt_of_lt_mul (Nat.lt_trans near (by decide)),
    Nat.lt_trans (Nat.mod_lt _ (by decide)) (by decide)⟩

theorem toList_offsetText {offset : Option Int} (near : (offset.getD 0).natAbs < 1440) :
    (offsetText offset).toList = offsetCharacters offset := by
  cases offset with
  | none => rfl
  | some minutes =>
      have near : minutes.natAbs < 1440 := near
      obtain ⟨hours, others⟩ := offset_small near
      by_cases universal : minutes = 0
      · subst universal
        rfl
      · by_cases behind : minutes < 0
        · simp [offsetText, offsetCharacters, universal, behind, toList_padded hours,
            toList_padded others]
        · simp [offsetText, offsetCharacters, universal, behind, toList_padded hours,
            toList_padded others]

def timeCharacters (parts : TimestampParts) : List Char :=
  lastDigits 10 2 parts.hour ++ ':' :: (lastDigits 10 2 parts.minute ++
    ':' :: (lastDigits 10 2 parts.second ++
      (fractionCharacters parts.microsecond ++ offsetCharacters parts.offset)))

theorem daysInMonth_le (year month : Nat) : daysInMonth year month ≤ 31 := by
  simp only [daysInMonth]
  repeat' split
  all_goals decide

end Timestamp

/-- Every number of a point in time has a fixed number of digits. -/
structure TimestampParts.Fitting (parts : TimestampParts) : Prop where
  year : parts.year < Nat.pow 10 4
  month : parts.month < Nat.pow 10 2
  day : parts.day < Nat.pow 10 2
  hour : parts.hour < Nat.pow 10 2
  minute : parts.minute < Nat.pow 10 2
  second : parts.second < Nat.pow 10 2
  microsecond : parts.microsecond < Nat.pow 10 6

theorem TimestampParts.Valid.fitting {parts : TimestampParts} (valid : parts.Valid) :
    parts.Fitting where
  year := Nat.lt_succ_of_le valid.year.2
  month := Nat.lt_of_le_of_lt valid.month.2 (by decide)
  day := Nat.lt_of_le_of_lt (Nat.le_trans valid.day.2 (Timestamp.daysInMonth_le _ _)) (by decide)
  hour := Nat.lt_of_le_of_lt valid.hour (by decide)
  minute := Nat.lt_of_le_of_lt valid.minute (by decide)
  second := Nat.lt_of_le_of_lt valid.second (by decide)
  microsecond := Nat.lt_succ_of_le valid.microsecond

namespace Timestamp

theorem toList_text (timestamp : Timestamp) :
    timestamp.text.toList = lastDigits 10 4 timestamp.parts.year ++
      '-' :: (lastDigits 10 2 timestamp.parts.month ++
        '-' :: (lastDigits 10 2 timestamp.parts.day ++ 'T' :: timeCharacters timestamp.parts)) := by
  obtain ⟨parts, valid⟩ := timestamp
  have fits := valid.fitting
  have fraction : (if parts.microsecond = 0 then "" else "." ++ padded 6 parts.microsecond).toList =
      fractionCharacters parts.microsecond := by
    by_cases whole : parts.microsecond = 0
    · simp [fractionCharacters, whole]
    · simp [fractionCharacters, whole, toList_padded fits.microsecond]
  simp only [text, String.toList_append, toList_padded fits.year, toList_padded fits.month,
    toList_padded fits.day, toList_padded fits.hour, toList_padded fits.minute,
    toList_padded fits.second, fraction, toList_offsetText valid.offset]
  simp [timeCharacters]

/-! ### Reading it -/

theorem readDate_lastDigits {year month day : Nat} (yearSmall : year < Nat.pow 10 4)
    (monthRange : 1 ≤ month ∧ month ≤ 12) (dayRange : 1 ≤ day ∧ day ≤ daysInMonth year month)
    (rest : List Char) :
    readDate (lastDigits 10 4 year ++ '-' :: (lastDigits 10 2 month ++
      '-' :: (lastDigits 10 2 day ++ rest))) = .ok (year, month, day, rest) := by
  have monthSmall : month < Nat.pow 10 2 := Nat.lt_of_le_of_lt monthRange.2 (by decide)
  have daySmall : day < Nat.pow 10 2 :=
    Nat.lt_of_le_of_lt (Nat.le_trans dayRange.2 (daysInMonth_le _ _)) (by decide)
  have monthInside : ¬ (month < 1 ∨ 12 < month) := by omega
  have dayInside : ¬ (day < 1 ∨ daysInMonth year month < day) := by omega
  simp only [readDate, digits?_lastDigits yearSmall, digits?_lastDigits monthSmall,
    digits?_lastDigits daySmall, if_neg monthInside, if_neg dayInside]

theorem readOffset?_signed {sign : Char} (signed : sign = '+' ∨ sign = '-') {hours minutes : Nat}
    (hoursSmall : hours < Nat.pow 10 2) (minutesSmall : minutes < 60) :
    readOffset? (sign :: (lastDigits 10 2 hours ++ ':' :: lastDigits 10 2 minutes)) =
      let distance : Int := hours * 60 + minutes
      some (some (if sign = '+' then distance else -distance)) := by
  have digits : minutes < Nat.pow 10 2 := Nat.lt_trans minutesSmall (by decide)
  rcases signed with rfl | rfl
  all_goals
    simp [readOffset?, digits?_lastDigits hoursSmall, digits?_lastDigits_end digits, minutesSmall]

theorem readOffset?_offsetCharacters {offset : Option Int}
    (near : (offset.getD 0).natAbs < 1440) :
    readOffset? (offsetCharacters offset) = some offset := by
  cases offset with
  | none => rfl
  | some minutes =>
      have near : minutes.natAbs < 1440 := near
      obtain ⟨hours, _⟩ := offset_small near
      have below : minutes.natAbs % 60 < 60 := Nat.mod_lt _ (by decide)
      by_cases universal : minutes = 0
      · subst universal
        rfl
      · by_cases behind : minutes < 0
        · have distance : -(((minutes.natAbs / 60 : Nat) : Int) * 60 + (minutes.natAbs % 60 : Nat)) =
              minutes := by
            omega
          simp only [offsetCharacters, universal, behind, if_true, if_false]
          exact (readOffset?_signed (.inr rfl) hours below).trans (congrArg (some <| some ·) distance)
        · have distance : ((minutes.natAbs / 60 : Nat) : Int) * 60 + (minutes.natAbs % 60 : Nat) =
              minutes := by
            omega
          simp only [offsetCharacters, universal, behind, if_false]
          exact (readOffset?_signed (.inl rfl) hours below).trans (congrArg (some <| some ·) distance)

theorem offsetCharacters_head (offset : Option Int) :
    ∀ first rest, offsetCharacters offset = first :: rest →
      first.isDigit = false ∧ first ≠ '.' ∧ first ≠ ',' := by
  have mark {first : Char} (listed : first = 'Z' ∨ first = '-' ∨ first = '+') :
      first.isDigit = false ∧ first ≠ '.' ∧ first ≠ ',' := by
    rcases listed with rfl | rfl | rfl
    all_goals decide
  intro first rest starts
  cases offset with
  | none => cases starts
  | some minutes =>
      by_cases universal : minutes = 0
      · simp [offsetCharacters, universal] at starts
        exact mark (.inl starts.1.symm)
      · by_cases behind : minutes < 0
        · simp [offsetCharacters, universal, behind] at starts
          exact mark (.inr (.inl starts.1.symm))
        · simp [offsetCharacters, universal, behind] at starts
          exact mark (.inr (.inr starts.1.symm))

theorem span_digits {digits behind : List Char} (decimal : ∀ found ∈ digits, found.isDigit = true)
    (marked : ∀ first rest, behind = first :: rest → first.isDigit = false) :
    (digits ++ behind).takeWhile Char.isDigit = digits ∧
      (digits ++ behind).dropWhile Char.isDigit = behind := by
  rw [List.takeWhile_append_of_pos decimal, List.dropWhile_append_of_pos decimal]
  cases behind with
  | nil => simp
  | cons first rest => simp [marked first rest rfl]

theorem readSeconds?_characters {second microsecond : Nat} {offset : Option Int}
    (secondSmall : second < Nat.pow 10 2) (microsecondSmall : microsecond < Nat.pow 10 6) :
    readSeconds? (':' :: (lastDigits 10 2 second ++
      (fractionCharacters microsecond ++ offsetCharacters offset))) =
        some (second, microsecond, offsetCharacters offset) := by
  have marked := offsetCharacters_head offset
  generalize offsetCharacters offset = behind at marked ⊢
  by_cases whole : microsecond = 0
  · cases behind with
    | nil => simp [readSeconds?, fractionCharacters, whole, digits?_lastDigits_end secondSmall]
    | cons first rest =>
        obtain ⟨_, noPoint, noComma⟩ := marked first rest rfl
        simp [readSeconds?, fractionCharacters, whole, digits?_lastDigits secondSmall, noPoint,
          noComma]
  · have digits : ∀ found ∈ lastDigits 10 6 microsecond, found.isDigit = true :=
      fun _ listed => isDigit_of_mem listed
    obtain ⟨taken, left⟩ := span_digits digits fun first rest starts => (marked first rest starts).1
    have six : (lastDigits 10 6 microsecond ++ List.replicate 6 '0').take 6 =
        lastDigits 10 6 microsecond := List.take_left' (length_lastDigits 10 6 microsecond)
    have filled : (lastDigits 10 6 microsecond).isEmpty = false := by
      simp [lastDigits]
    simp only [readSeconds?, fractionCharacters, whole, digits?_lastDigits secondSmall, if_false,
      List.cons_append, Option.bind_eq_bind, Option.bind_some, true_or, if_true, taken, left, six,
      filled, Bool.false_eq_true, digits?_lastDigits_end microsecondSmall]

theorem readTime?_timeCharacters {parts : TimestampParts} (valid : parts.Valid) :
    readTime? parts.year parts.month parts.day ('T' :: timeCharacters parts) = some parts := by
  have fits := valid.fitting
  simp [readTime?, timeCharacters, digits?_lastDigits fits.hour, digits?_lastDigits fits.minute,
    readSeconds?_characters fits.second fits.microsecond, readOffset?_offsetCharacters valid.offset]

theorem digitRun_append_hyphen {digits : List Char} (decimal : ∀ found ∈ digits, found.isDigit)
    (afterDigit : Bool) (rest : List Char) :
    Numeral.digitRun afterDigit (digits ++ '-' :: rest) = (digits, '-' :: rest) := by
  induction digits generalizing afterDigit with
  | nil => simp [Numeral.digitRun]
  | cons first others ih =>
      obtain ⟨here, later⟩ := List.forall_mem_cons.1 decimal
      simp [Numeral.digitRun, here, ih later]

theorem toLower_of_isDigit {character : Char} (digit : character.isDigit = true) :
    character.toLower = character := by
  simp only [Char.isDigit, Bool.and_eq_true, decide_eq_true_eq] at digit
  have small : ¬ ('A'.val ≤ character.val ∧ character.val ≤ 'Z'.val) := by
    rintro ⟨above, _⟩
    exact absurd (UInt32.le_trans above digit.2) (by decide)
  exact dif_neg small

theorem sign_of_isDigit {first : Char} (digit : first.isDigit = true) (rest : List Char) :
    Numeral.sign (first :: rest) = (false, first :: rest) := by
  unfold Numeral.sign
  split
  · next same => cases (List.cons.inj same).1 ▸ digit
  · next same => cases (List.cons.inj same).1 ▸ digit
  · rfl

theorem lowered_ne_word {first : Char} (digit : first.isDigit = true) (rest : List Char)
    {letter : Char} (letters : List Char) (noDigit : letter.isDigit = false) :
    String.ofList ((first :: rest).map Char.toLower) ≠ String.ofList (letter :: letters) := by
  intro same
  have head : first.toLower = letter := (List.cons.inj (String.ofList_injective same)).1
  rw [toLower_of_isDigit digit] at head
  rw [head, noDigit] at digit
  cases digit

theorem bare?_of_isDigit {first : Char} (digit : first.isDigit = true) (rest : List Char) :
    Numeral.bare? (first :: rest) = Numeral.decimal? false (first :: rest) := by
  have notNan := lowered_ne_word digit rest "an".toList (by decide : 'n'.isDigit = false)
  have notInf := lowered_ne_word digit rest "nf".toList (by decide : 'i'.isDigit = false)
  have notInfinity := lowered_ne_word digit rest "nfinity".toList (by decide : 'i'.isDigit = false)
  rw [Numeral.bare?, sign_of_isDigit digit]
  exact (if_neg notNan).trans (if_neg (not_or_intro notInf notInfinity))

theorem ofNumberText?_of_hyphen {first : Char} {others : List Char}
    (decimal : ∀ found ∈ first :: others, found.isDigit = true) (rest : List Char) :
    ofNumberText? (first :: (others ++ '-' :: rest)) = none := by
  have digit : first.isDigit = true := decimal first List.mem_cons_self
  have uncounted : count? (first :: (others ++ '-' :: rest)) = none := by
    simp [count?, sign_of_isDigit digit]
  have run : Numeral.digitRun false (first :: (others ++ '-' :: rest)) =
      (first :: others, '-' :: rest) := digitRun_append_hyphen decimal false rest
  have unread : Numeral.bare? (first :: (others ++ '-' :: rest)) = none := by
    rw [bare?_of_isDigit digit]
    simp [Numeral.decimal?, run, Numeral.exponent?]
  simp [ofNumberText?, uncounted, unread]

theorem length_le_utf8ByteSize (text : String) : text.toList.length ≤ text.utf8ByteSize := by
  have all (characters : List Char) :
      characters.length ≤ (String.ofList characters).utf8ByteSize := by
    induction characters with
    | nil => exact Nat.zero_le _
    | cons first rest ih =>
        have positive := first.utf8Size_pos
        rw [String.ofList_cons, String.utf8ByteSize_append, String.utf8ByteSize_singleton,
          List.length_cons]
        omega
  have whole := all text.toList
  rwa [String.ofList_toList] at whole

theorem read_text (timestamp : Timestamp) : read timestamp.text = .ok timestamp := by
  have fits := timestamp.valid.fitting
  have written := timestamp.toList_text
  have long : ¬ timestamp.text.utf8ByteSize < 10 := by
    have length := length_le_utf8ByteSize timestamp.text
    simp only [written, List.length_append, List.length_cons, length_lastDigits] at length
    omega
  have unnumbered : ofNumberText? timestamp.text.toList = none := by
    rw [written, lastDigits_succ]
    exact ofNumberText?_of_hyphen (lastDigits_succ 10 3 _ ▸ fun _ listed => isDigit_of_mem listed) _
  have date := readDate_lastDigits fits.year timestamp.valid.month timestamp.valid.day
    ('T' :: timeCharacters timestamp.parts)
  rw [← written] at date
  have named : ofParts timestamp.parts .trailing = .ok timestamp := dif_pos timestamp.valid
  simp only [read, unnumbered, long, if_false, date, bind, Except.bind,
    readTime?_timeCharacters timestamp.valid, named]

end Timestamp
end CoffeeGrading
