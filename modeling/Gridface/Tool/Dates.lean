import Gridface.Text.Octets
import Gridface.Tool.Calendar

/-!
# Dates in words

Moments as they are told to tools: by digits alone, or by words and numbers of which each says a
part of the moment, in any order. A part that nothing is said of is that of the present.
-/

namespace Gridface.Tool

open Text

/-- The nanoseconds of a second. -/
def nanosecondsOfSecond : Int := 1000000000

/-- Whether a number takes no more than so many bits besides its sign. -/
def fitsIn (bits : Nat) (n : Int) : Bool :=
  let bound : Int := (1 <<< bits : Nat)
  n < bound && -bound ≤ n

/-! ## Digits alone -/

/-- The numbers that pairs of digits are. -/
def digitPairs? : List Char → Option (List Int)
  | [] => some []
  | a :: b :: rest => do
    let tens ← Octets.digitBelow? 10 a
    let ones ← Octets.digitBelow? 10 b
    return (10 * tens + ones : Nat) :: (← digitPairs? rest)
  | _ => none

/-- The year that the pairs of digits before a month tell. -/
def yearOfPairs? (thisYear : Int) : List Int → Option Int
  | [] => some thisYear
  | [year] => some (if year ≤ 68 then 2000 + year else 1900 + year)
  | [century, year] => some (100 * century + year)
  | _ => none

/-- The moment that digits tell, in seconds since the beginning of 1970: an optional year, a month,
a day, an hour and a minute, and perhaps seconds after a point. A sixtieth second is the first of
the next minute. -/
def secondsOfDigits? (thisYear : Int) (text : Octets) : Option Int := do
  let cs := text.toList
  let whole := cs.takeWhile (· != '.')
  let pairs ← digitPairs? whole
  let second ←
    match cs.drop whole.length with
    | [] => some 0
    | _ :: digits =>
      match ← digitPairs? digits with
      | [second] => some second
      | _ => none
  let parts := pairs.drop (pairs.length - 4)
  match parts with
  | [month, day, hour, minute] =>
    let year ← yearOfPairs? thisYear (pairs.take (pairs.length - 4))
    let m : Moment := { year, month, day, hour, minute, second := min second 59 }
    if m.isProper && second ≤ 60 then some (m.seconds + (second - m.second)) else none
  | _ => none

/-! ## Words -/

/-- A unit in which a date is moved. -/
inductive DateUnit
  | year
  | month
  /-- So many days. -/
  | days (count : Int)
  | hour
  | minute
  | second
  deriving DecidableEq, Repr

/-- A number as it was told. -/
structure ToldNumber where
  value : Int
  digits : Nat
  deriving DecidableEq, Repr

/-- A token of a date. -/
inductive DateToken
  | number (n : ToldNumber)
  | signed (n : ToldNumber)
  /-- A number with places after the point, in nanoseconds. -/
  | fraction (isSigned : Bool) (nanoseconds : Int)
  | month (number : Int)
  | weekday (number : Int)
  | halfDay (isAfternoon : Bool)
  | unit (u : DateUnit)
  | ordinal (value : Int)
  | dayShift (days : Int)
  /-- The direction of what was told before. -/
  | direction (sign : Int)
  /-- A zone, by its seconds east of Greenwich. -/
  | zone (seconds : Int)
  | summerZone (seconds : Int)
  | summer
  /-- The letter between a date and a time, which is a zone too. -/
  | letterT
  /-- The letter for the zone of the place. -/
  | here
  | mark (c : Char)
  deriving DecidableEq, Repr

namespace DateToken

/-- The names of months. -/
def monthNames : List String :=
  ["JANUARY", "FEBRUARY", "MARCH", "APRIL", "MAY", "JUNE", "JULY", "AUGUST", "SEPTEMBER", "OCTOBER",
    "NOVEMBER", "DECEMBER"]

/-- The names of the days of the week. -/
def weekdayNames : List String :=
  ["SUNDAY", "MONDAY", "TUESDAY", "WEDNESDAY", "THURSDAY", "FRIDAY", "SATURDAY"]

/-- Other spellings of months and days. -/
def otherNames : List (String × DateToken) :=
  [("SEPT", .month 9), ("TUES", .weekday 2), ("WEDNES", .weekday 3), ("THUR", .weekday 4),
    ("THURS", .weekday 4)]

/-- The units by their names. -/
def unitNames : List (String × DateUnit) :=
  [("YEAR", .year), ("MONTH", .month), ("FORTNIGHT", .days 14), ("WEEK", .days 7),
    ("DAY", .days 1), ("HOUR", .hour), ("MINUTE", .minute), ("MIN", .minute), ("SECOND", .second),
    ("SEC", .second)]

/-- Words that say how a date is moved. -/
def relativeNames : List (String × DateToken) :=
  [("TOMORROW", .dayShift 1), ("YESTERDAY", .dayShift (-1)), ("TODAY", .dayShift 0),
    ("NOW", .dayShift 0), ("LAST", .ordinal (-1)), ("THIS", .ordinal 0), ("NEXT", .ordinal 1),
    ("FIRST", .ordinal 1), ("THIRD", .ordinal 3), ("FOURTH", .ordinal 4), ("FIFTH", .ordinal 5),
    ("SIXTH", .ordinal 6), ("SEVENTH", .ordinal 7), ("EIGHTH", .ordinal 8), ("NINTH", .ordinal 9),
    ("TENTH", .ordinal 10), ("ELEVENTH", .ordinal 11), ("TWELFTH", .ordinal 12),
    ("AGO", .direction (-1)), ("HENCE", .direction 1)]

/-- The zones by their names, with their minutes east of Greenwich. -/
def zoneNames : List (String × Int) :=
  [("GMT", 0), ("UT", 0), ("UTC", 0), ("WET", 0), ("ART", -180), ("BRT", -180), ("NST", -210),
    ("AST", -240), ("CLT", -240), ("EST", -300), ("CST", -360), ("MST", -420), ("PST", -480),
    ("AKST", -540), ("HST", -600), ("HAST", -600), ("SST", -720), ("WAT", 60), ("CET", 60),
    ("MET", 60), ("MEZ", 60), ("EET", 120), ("CAT", 120), ("SAST", 120), ("EAT", 180),
    ("MSK", 180), ("IST", 330), ("SGT", 480), ("KST", 540), ("JST", 540), ("GST", 600),
    ("NZST", 720)]

/-- The zones in summer, with the minutes that they have in winter. -/
def summerZoneNames : List (String × Int) :=
  [("WEST", 0), ("BST", 0), ("BRST", -180), ("NDT", -210), ("ADT", -240), ("CLST", -240),
    ("EDT", -300), ("CDT", -360), ("MDT", -420), ("PDT", -480), ("AKDT", -540), ("HADT", -600),
    ("CEST", 60), ("MEST", 60), ("MESZ", 60), ("EEST", 120), ("MSD", 180), ("NZDT", 720)]

/-- The zone that a letter names. -/
def letterZone? (c : Char) : Option DateToken :=
  let hours (n : Int) : Option DateToken := some (.zone (n * 3600))
  if c = 'T' then some .letterT
  else if c = 'J' then some .here
  else if c = 'Z' then hours 0
  else if 'A' ≤ c && c ≤ 'I' then hours (c.toNat - 'A'.toNat + 1 : Nat)
  else if 'K' ≤ c && c ≤ 'M' then hours (c.toNat - 'K'.toNat + 10 : Nat)
  else if 'N' ≤ c && c ≤ 'Y' then hours (-(c.toNat - 'N'.toNat + 1 : Nat))
  else none

/-- The zone with a name. -/
def zone? (word : String) : Option DateToken :=
  ((zoneNames.lookup word).map fun minutes => .zone (minutes * 60)) <|>
    (summerZoneNames.lookup word).map fun minutes => .summerZone (minutes * 60)

/-- The month or the day of the week with a name, of which three letters are enough. -/
def calendarName? (word : String) : Option DateToken :=
  let cs := word.toList
  let isShort := cs.length = 3 || (cs.length = 4 && cs[3]? == some '.')
  let fits (name : String) : Bool :=
    if isShort then name.toList.take 3 == cs.take 3 else name == word
  let at? (names : List String) := names.findIdx? fits
  match at? monthNames, at? weekdayNames with
  | some i, _ => some (.month (i + 1 : Nat))
  | none, some i => some (.weekday (i : Nat))
  | none, none => otherNames.lookup word

/-- The unit with a name, which may stand in the plural. -/
def unit? (word : String) : Option DateToken :=
  let cs := word.toList
  let one := if cs.getLast? == some 'S' then String.ofList cs.dropLast else word
  ((unitNames.lookup word) <|> unitNames.lookup one).map .unit

/-- What a word of letters and points says. -/
def ofWord? (word : String) : Option DateToken :=
  let upper := String.ofList (word.toList.map Char.toUpper)
  let bare := String.ofList (upper.toList.filter (· != '.'))
  if upper = "AM" || upper = "A.M." then some (.halfDay false)
  else if upper = "PM" || upper = "P.M." then some (.halfDay true)
  else
    calendarName? upper <|> zone? upper <|> (if upper = "DST" then some .summer else none) <|>
      unit? upper <|> relativeNames.lookup upper <|>
      (match upper.toList with
        | [c] => letterZone? c
        | _ => none) <|>
      (if bare = upper then none else zone? bare)

/-- The number, perhaps with places after its point, that begins with digits, and what follows it. A
number that is cut off after nine places is rounded down. -/
def readNumber (isSigned isNegative : Bool) (cs : List Char) : DateToken × List Char :=
  let digits := cs.takeWhile Char.isDigit
  let rest := cs.drop digits.length
  let n : Int := (Octets.readDigits 10 digits.length 0 digits).1
  let value := if isNegative then -n else n
  let places :=
    match rest with
    | point :: after => if point == '.' || point == ',' then after.takeWhile Char.isDigit else []
    | [] => []
  if places.isEmpty then
    let told : ToldNumber := ⟨value, digits.length⟩
    (if isSigned then .signed told else .number told, rest)
  else
    let kept := (places ++ List.replicate 9 '0').take 9
    let part : Int := (Octets.readDigits 10 9 0 kept).1
    let more := isNegative && (places.drop 9).any (· != '0')
    let whole := n * nanosecondsOfSecond + part + (if more then 1 else 0)
    (.fraction isSigned (if isNegative then -whole else whole), rest.drop (places.length + 1))

/-- Whether a number, in the seconds that it may stand for, is small enough to be told. -/
def isTellable : DateToken → Bool
  | .number n => fitsIn 63 n.value
  | .signed n => fitsIn 63 n.value
  | .fraction _ nanoseconds => fitsIn 63 (nanoseconds / nanosecondsOfSecond)
  | _ => true

/-- What follows a remark between parentheses, of which the first has been taken; `depth` of them
are open. -/
def skipRemark (depth : Nat) : List Char → List Char
  | [] => []
  | c :: cs =>
    if c = '(' then skipRemark (depth + 1) cs
    else if c = ')' then if depth = 1 then cs else skipRemark (depth - 1) cs
    else skipRemark depth cs

/-- The tokens of a text; nothing if it has a word that says nothing. -/
def tokensFrom? : Nat → List Char → Option (List DateToken)
  | 0, _ => some []
  | _ + 1, [] => some []
  | fuel + 1, c :: cs =>
    if Octets.isBlank c then tokensFrom? fuel cs
    else if c.isDigit then
      let (token, rest) := readNumber false false (c :: cs)
      if token.isTellable then (tokensFrom? fuel rest).map (token :: ·) else none
    else if c == '-' || c == '+' then
      let after := cs.dropWhile Octets.isBlank
      if after.head?.any Char.isDigit then
        let (token, rest) := readNumber true (c == '-') after
        if token.isTellable then (tokensFrom? fuel rest).map (token :: ·) else none
      else tokensFrom? fuel after
    else if c.isAlpha then
      let word := (c :: cs).takeWhile fun d => d.isAlpha || d == '.'
      match ofWord? (String.ofList (word.take 19)) with
      | some token => (tokensFrom? fuel ((c :: cs).drop word.length)).map (token :: ·)
      | none => none
    else if c == '(' then tokensFrom? fuel (skipRemark 1 cs)
    else (tokensFrom? fuel cs).map (.mark c :: ·)

/-- The tokens of a text. Each takes a character at least, so the length bounds their number. -/
def tokens? (text : List Char) : Option (List DateToken) := tokensFrom? (text.length + 1) text

end DateToken

/-! ## Places -/

/-- The number that at most so many digits are, and what follows them. -/
def readClockPart? (cs : List Char) : Option (Int × List Char) :=
  let digits := cs.takeWhile Char.isDigit
  if digits.isEmpty then none
  else some (((Octets.readDigits 10 digits.length 0 digits).1 : Nat), cs.drop digits.length)

/-- What follows the name of a zone in a rule: three letters or more, or anything between angle
brackets. -/
def afterZoneName? (cs : List Char) : Option (List Char) :=
  let letters := cs.takeWhile Char.isAlpha
  if 3 ≤ letters.length then some (cs.drop letters.length)
  else
    match cs with
    | '<' :: rest =>
      let name := rest.takeWhile fun c => c.isAlphanum || c == '+' || c == '-'
      match rest.drop name.length with
      | '>' :: after => if 3 ≤ name.length then some after else none
      | _ => none
    | _ => none

/-- The seconds east of Greenwich that the rule of a place tells: a name, and a time of at most a
day to be added for that of Greenwich. A place without such a rule is at Greenwich. -/
def placeSeconds (rule : List Char) : Int :=
  (do
    let rest ← afterZoneName? rule
    let (sign, rest) : Int × List Char :=
      match rest with
      | '-' :: rest => (1, rest)
      | '+' :: rest => (-1, rest)
      | rest => (-1, rest)
    let (hours, rest) ← readClockPart? rest
    let next (cs : List Char) : Int × List Char :=
      match cs with
      | ':' :: rest => (readClockPart? rest).getD (0, [])
      | _ => (0, [])
    let (minutes, rest) := next rest
    let (seconds, _) := next rest
    if hours ≤ 24 && minutes < 60 && seconds < 60 then
      some (sign * (hours * 3600 + minutes * 60 + seconds))
    else none).getD 0

/-- The text between quotation marks, of which the first has been taken, and what follows; nothing
if the second is missing. -/
def readQuoted? : List Char → Option (List Char × List Char)
  | [] => none
  | '"' :: rest => some ([], rest)
  | '\\' :: c :: rest =>
    if c == '\\' || c == '"' then (readQuoted? rest).map fun (text, rest) => (c :: text, rest)
    else none
  | c :: rest => (readQuoted? rest).map fun (text, rest) => (c :: text, rest)

/-- The seconds east of Greenwich of the place that a date may begin with, and the date. -/
def splitPlace (text : List Char) : Int × List Char :=
  match text.dropWhile Octets.isBlank with
  | 'T' :: 'Z' :: '=' :: '"' :: rest =>
    match readQuoted? rest with
    | some (rule, rest) => (placeSeconds rule, rest)
    | none => (0, text)
  | _ => (0, text)

/-! ## What has been told -/

/-- The time of a day as it was told. -/
structure ToldTime where
  hour : Int
  minute : Int := 0
  nanoseconds : Int := 0
  /-- The half of the day that the hour is of. -/
  isAfternoon : Option Bool := none
  deriving DecidableEq, Repr

/-- What has been told of a moment. -/
structure ToldDate where
  year : ToldNumber
  month : Int
  day : Int
  time : ToldTime
  zone : Option Int := none
  /-- The seconds east of Greenwich of the place, for a moment with no zone said. -/
  place : Int := 0
  /-- The day of the week, and which one it is from the day on. -/
  weekday : Option (Int × Int) := none
  /-- How far the moment is moved: years, months, days and nanoseconds. -/
  years : Int := 0
  months : Int := 0
  days : Int := 0
  nanoseconds : Int := 0
  isMoved : Bool := false
  dates : Nat := 0
  times : Nat := 0
  zones : Nat := 0
  weekdays : Nat := 0

namespace ToldDate

/-- The date with a day said. -/
def onDay (t : ToldDate) (year : ToldNumber) (month day : Int) : ToldDate :=
  { t with year, month, day, dates := t.dates + 1 }

/-- The date with a time said. -/
def atTime (t : ToldDate) (time : ToldTime) : ToldDate := { t with time, times := t.times + 1 }

/-- The date with a zone said. -/
def inZone (t : ToldDate) (seconds : Int) : ToldDate :=
  { t with zone := some seconds, zones := t.zones + 1 }

/-- The date moved by so many units. -/
def move (t : ToldDate) (unit : DateUnit) (count : Int) : ToldDate :=
  let t := { t with isMoved := true }
  match unit with
  | .year => { t with years := t.years + count }
  | .month => { t with months := t.months + count }
  | .days each => { t with days := t.days + count * each }
  | .hour => { t with nanoseconds := t.nanoseconds + count * 3600 * nanosecondsOfSecond }
  | .minute => { t with nanoseconds := t.nanoseconds + count * 60 * nanosecondsOfSecond }
  | .second => { t with nanoseconds := t.nanoseconds + count * nanosecondsOfSecond }

/-- The date with a bare number said: a year after a day, else a day or a time of the day by how
many digits there are. -/
def withNumber (t : ToldDate) (n : ToldNumber) : ToldDate :=
  if t.dates != 0 && t.year.digits == 0 && !t.isMoved && (t.times != 0 || 2 < n.digits) then
    { t with year := n }
  else if 4 < n.digits then
    t.onDay ⟨n.value / 10000, n.digits - 4⟩ (n.value / 100 % 100) (n.value % 100)
  else if n.digits ≤ 2 then t.atTime { hour := n.value }
  else t.atTime { hour := n.value / 100, minute := n.value % 100 }

/-- The seconds of a zone that is told by a number of hours, or of hours and minutes, and perhaps by
minutes apart. -/
def offset? (n : ToldNumber) (isNegative : Bool) (minutes : Option Int) : Option Int :=
  let total :=
    match minutes with
    | some minutes => n.value * 60 + (if isNegative then -minutes else minutes)
    | none =>
      if n.digits ≤ 2 then n.value * 60
      else Int.tdiv n.value 100 * 60 + Int.tmod n.value 100
  if -1440 ≤ total ∧ total ≤ 1440 then some (total * 60) else none

/-- The date in a zone that is told by a number, and the tokens after it. -/
def readOffset (t : ToldDate) (n : ToldNumber) (rest : List DateToken) :
    Option (ToldDate × List DateToken) :=
  let isNegative := n.value < 0
  match rest with
  | .mark ':' :: .number minutes :: rest =>
    (offset? n isNegative (some minutes.value)).map fun seconds => (t.inZone seconds, rest)
  | .mark ':' :: _ => none
  | rest => (offset? n isNegative none).map fun seconds => (t.inZone seconds, rest)

/-- The date with the zone that may follow a time. -/
def readZone (t : ToldDate) : List DateToken → Option (ToldDate × List DateToken)
  | .signed n :: rest => t.readOffset n rest
  | rest => some (t, rest)

/-- The date with the time that begins with an hour and a colon, which have been taken. -/
def readClock (t : ToldDate) (hour : Int) (mayHaveHalf : Bool) (tokens : List DateToken) :
    Option (ToldDate × List DateToken) :=
  let finish (time : ToldTime) (rest : List DateToken) : Option (ToldDate × List DateToken) :=
    match rest with
    | .halfDay isAfternoon :: rest =>
      if mayHaveHalf then some (t.atTime { time with isAfternoon := some isAfternoon }, rest)
      else none
    | rest => (t.atTime time).readZone rest
  match tokens with
  | .number minute :: .mark ':' :: .number second :: rest =>
    finish { hour, minute := minute.value, nanoseconds := second.value * nanosecondsOfSecond } rest
  | .number minute :: .mark ':' :: .fraction false nanoseconds :: rest =>
    finish { hour, minute := minute.value, nanoseconds } rest
  | .number _ :: .mark ':' :: _ => none
  | .number minute :: rest => finish { hour, minute := minute.value } rest
  | _ => none

/-- The date after a day in digits, which a letter and a time may follow. -/
def readTimeAfterDay (t : ToldDate) : List DateToken → Option (ToldDate × List DateToken)
  | .letterT :: .number hour :: .mark ':' :: rest => t.readClock hour.value false rest
  | .letterT :: .number hour :: .signed n :: rest =>
    (t.atTime { hour := hour.value }).readOffset n rest
  | .letterT :: _ => none
  | rest => some (t, rest)

/-- The date moved, forward or as the token after it says. -/
def readMove (t : ToldDate) (unit : DateUnit) (count : Int) (rest : List DateToken) :
    ToldDate × List DateToken :=
  match rest with
  | .direction sign :: rest => (t.move unit (sign * count), rest)
  | rest => (t.move unit count, rest)

/-- The date after what begins with a number without a sign. -/
def readAfterNumber (t : ToldDate) (n : ToldNumber) (tokens : List DateToken) :
    Option (ToldDate × List DateToken) :=
  match tokens with
  | .halfDay isAfternoon :: rest =>
    some (t.atTime { hour := n.value, isAfternoon := some isAfternoon }, rest)
  | .mark ':' :: rest => t.readClock n.value true rest
  | .mark '/' :: .number b :: .mark '/' :: .number c :: rest =>
    some (if 4 ≤ n.digits then t.onDay n b.value c.value else t.onDay c n.value b.value, rest)
  | .mark '/' :: .number _ :: .mark '/' :: _ => none
  | .mark '/' :: .number b :: rest =>
    some ({ t with month := n.value, day := b.value, dates := t.dates + 1 }, rest)
  | .month month :: .signed year :: rest =>
    some (t.onDay { year with value := -year.value } month n.value, rest)
  | .month month :: .number year :: rest => some (t.onDay year month n.value, rest)
  | .month month :: rest => some ({ t with month, day := n.value, dates := t.dates + 1 }, rest)
  | .signed month :: .signed day :: rest =>
    (t.onDay n (-month.value) (-day.value)).readTimeAfterDay rest
  | .signed count :: .unit unit :: rest => some ((t.withNumber n).move unit count.value, rest)
  | .signed zone :: rest => (t.atTime { hour := n.value }).readOffset zone rest
  | .weekday day :: rest =>
    some ({ t with weekday := some (day, n.value), weekdays := t.weekdays + 1 }, rest)
  | .unit unit :: rest => some (t.readMove unit n.value rest)
  | rest => some (t.withNumber n, rest)

/-- The date after what begins with a zone. -/
def readAfterZone (t : ToldDate) (seconds : Int) (tokens : List DateToken) :
    Option (ToldDate × List DateToken) :=
  match tokens with
  | .signed count :: .unit unit :: rest => some ((t.inZone seconds).move unit count.value, rest)
  | .signed n :: rest =>
    (t.readOffset n rest).map fun (t, rest) => ({ t with zone := t.zone.map (· + seconds) }, rest)
  | .summer :: rest => some (t.inZone (seconds + 3600), rest)
  | rest => some (t.inZone seconds, rest)

/-- The date after one more thing that is told. -/
def readItem (t : ToldDate) : List DateToken → Option (ToldDate × List DateToken)
  | .number n :: rest => t.readAfterNumber n rest
  | .signed n :: .unit unit :: rest => some (t.readMove unit n.value rest)
  | .fraction _ nanoseconds :: .unit .second :: rest =>
    let count :=
      match rest with
      | .direction sign :: _ => sign * nanoseconds
      | _ => nanoseconds
    let rest := if rest.head?.any fun token => token matches .direction _ then rest.drop 1 else rest
    some ({ t with nanoseconds := t.nanoseconds + count, isMoved := true }, rest)
  | .month month :: .signed day :: .signed year :: rest =>
    some (t.onDay { year with value := -year.value } month (-day.value), rest)
  | .month month :: .number day :: .mark ',' :: .number year :: rest =>
    some (t.onDay year month day.value, rest)
  | .month _ :: .number _ :: .mark ',' :: _ => none
  | .month month :: .number day :: rest =>
    some ({ t with month, day := day.value, dates := t.dates + 1 }, rest)
  | .weekday day :: rest =>
    let rest := if rest.head? == some (.mark ',') then rest.drop 1 else rest
    some ({ t with weekday := some (day, 0), weekdays := t.weekdays + 1 }, rest)
  | .ordinal which :: .weekday day :: rest =>
    some ({ t with weekday := some (day, which), weekdays := t.weekdays + 1 }, rest)
  | .ordinal count :: .unit unit :: rest => some (t.readMove unit count rest)
  | .unit unit :: rest => some (t.readMove unit 1 rest)
  | .dayShift days :: rest => some (t.move (.days 1) days, rest)
  | .zone seconds :: rest => t.readAfterZone seconds rest
  | .letterT :: .signed count :: .unit unit :: rest =>
    some ((t.inZone (-25200)).move unit count.value, rest)
  | .letterT :: rest => some (t.inZone (-25200), rest)
  | .summerZone seconds :: rest => some (t.inZone (seconds + 3600), rest)
  | .here :: rest => some (t.inZone t.place, rest)
  | _ => none

/-- The date after all that is told. -/
def readItems : Nat → ToldDate → List DateToken → Option ToldDate
  | _, t, [] => some t
  | 0, _, _ => none
  | fuel + 1, t, tokens => do
    let (t, rest) ← t.readItem tokens
    readItems fuel t rest

/-! ## The moment -/

/-- The hour of a time in a whole day. -/
def wholeHour? (time : ToldTime) : Option Int :=
  let h := time.hour
  match time.isAfternoon with
  | none => if 0 ≤ h ∧ h < 24 then some h else none
  | some isAfternoon =>
    if 1 ≤ h ∧ h ≤ 12 then some (h % 12 + (if isAfternoon then 12 else 0)) else none

/-- The year that a number of so many digits tells. -/
def wholeYear (n : ToldNumber) : Int :=
  if n.value < 0 then -n.value
  else if n.digits = 2 then n.value + (if n.value < 69 then 2000 else 1900)
  else n.value

/-- The time of the day that has been told; nothing is told by a day alone but its beginning. -/
def clock? (t : ToldDate) : Option ToldTime :=
  if 0 < t.times || (t.isMoved && t.dates = 0 && t.weekdays = 0) then
    (wholeHour? t.time).map fun hour => { t.time with hour }
  else some { hour := 0 }

/-- The moment told, in nanoseconds since the beginning of 1970. Each part may be told once. -/
def nanosecondsSince1970? (t : ToldDate) : Option Int := do
  if 1 < t.dates || 1 < t.times || 1 < t.zones || 1 < t.weekdays then none
  else
    let time ← t.clock?
    let second := time.nanoseconds / nanosecondsOfSecond
    let m : Moment :=
      { year := wholeYear t.year, month := t.month, day := t.day, hour := time.hour
        minute := time.minute, second }
    if !m.isProper then none
    else
      let shift :=
        match t.weekday with
        | some (weekday, which) =>
          if t.dates != 0 then 0
          else
            let isPast := 0 < which && decide (m.weekday ≠ weekday)
            (weekday - m.weekday + 7) % 7 + 7 * (which - (if isPast then 1 else 0))
        | none => 0
      let start := Moment.ofSeconds (m.seconds + shift * 86400)
      let moved :=
        { start with
          year := start.year + t.years, month := start.month + t.months, day := start.day + t.days }
      let seconds := moved.seconds - t.zone.getD t.place
      let told :=
        seconds * nanosecondsOfSecond + time.nanoseconds % nanosecondsOfSecond + t.nanoseconds
      if fitsIn 31 (moved.year - 1900) && fitsIn 31 moved.month && fitsIn 31 moved.day &&
          fitsIn 63 (told / nanosecondsOfSecond) then
        some told
      else none

/-- What is told of a moment in a place if nothing is said: the present. -/
def ofPresent (present place : Int) : ToldDate :=
  let m := Moment.ofSeconds (present / nanosecondsOfSecond + place)
  { year := ⟨m.year, 0⟩, month := m.month, day := m.day, place
    time :=
      { hour := m.hour, minute := m.minute
        nanoseconds := m.second * nanosecondsOfSecond + present % nanosecondsOfSecond } }

end ToldDate

/-- The moment that words tell, in nanoseconds since the beginning of 1970. A number after an at
sign counts seconds. -/
def momentOfWords? (present : Int) (text : Octets) : Option Int := do
  let (place, words) := splitPlace text.toList
  match ← DateToken.tokens? words with
  | [.mark '@', .number n] => some (n.value * nanosecondsOfSecond)
  | [.mark '@', .signed n] => some (n.value * nanosecondsOfSecond)
  | [.mark '@', .fraction _ nanoseconds] => some nanoseconds
  | tokens =>
    let t ← ToldDate.readItems tokens.length (.ofPresent present place) tokens
    t.nanosecondsSince1970?

end Gridface.Tool
