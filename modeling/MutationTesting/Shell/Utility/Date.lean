import MutationTesting.Shell.Number
import MutationTesting.Shell.Utility.Basic
/-! Days, months and years, and the texts of moments. A moment is counted in seconds from the start
of the year 1970; there is one zone only, that of the universal time. -/
namespace MutationTesting.Shell.Utility

structure Moment where
  year : Int
  month : Nat
  day : Nat
  hour : Nat := 0
  minute : Nat := 0
  second : Nat := 0
  nanosecond : Nat := 0
  deriving Repr, DecidableEq

namespace Moment

/-- The number of days from the start of 1970 to a day. A year is counted from March on, so that the
day that only some years have is the last one. -/
def daysTo (year : Int) (month : Int) (day : Int) : Int :=
  let months := year * 12 + (month - 1)
  let (year, month) := (months.fdiv 12, months.fmod 12 + 1)
  let year := if month ≤ 2 then year - 1 else year
  let era := year.fdiv 400
  let yearOfEra := year - era * 400
  let dayOfYear := (153 * (if 2 < month then month - 3 else month + 9) + 2) / 5 + day - 1
  let dayOfEra := yearOfEra * 365 + yearOfEra / 4 - yearOfEra / 100 + dayOfYear
  era * 146097 + dayOfEra - 719468

/-- The year, the month and the day that come after a number of days. -/
def ofDays (days : Int) : Int × Nat × Nat :=
  let days := days + 719468
  let era := days.fdiv 146097
  let dayOfEra := days - era * 146097
  let yearOfEra := (dayOfEra - dayOfEra / 1460 + dayOfEra / 36524 - dayOfEra / 146096) / 365
  let dayOfYear := dayOfEra - (365 * yearOfEra + yearOfEra / 4 - yearOfEra / 100)
  let place := (5 * dayOfYear + 2) / 153
  let day := dayOfYear - (153 * place + 2) / 5 + 1
  let month := if place < 10 then place + 3 else place - 9
  (yearOfEra + era * 400 + (if month ≤ 2 then 1 else 0), month.toNat, day.toNat)

def ofSeconds (seconds : Int) (nanosecond : Nat) : Moment :=
  let (year, month, day) := ofDays (seconds.fdiv 86400)
  let rest := (seconds.fmod 86400).toNat
  { year, month, day, hour := rest / 3600, minute := rest / 60 % 60, second := rest % 60,
    nanosecond }

def days (moment : Moment) : Int :=
  daysTo moment.year moment.month moment.day

def toSeconds (moment : Moment) : Int :=
  moment.days * 86400 + (moment.hour * 3600 + moment.minute * 60 + moment.second : Nat)

/-- The day of the week, from Sunday on. -/
def weekday (moment : Moment) : Nat :=
  ((moment.days + 4).fmod 7).toNat

/-- The day of the year, counted from zero. -/
def dayOfYear (moment : Moment) : Nat :=
  (moment.days - daysTo moment.year 1 1).toNat

/-- The year and the number of the week that has most of its days in that year. -/
def week (moment : Moment) : Int × Nat :=
  let thursday := moment.days - (((moment.weekday + 6) % 7 : Nat) : Int) + 3
  let (year, _, _) := ofDays thursday
  (year, ((thursday - daysTo year 1 1) / 7 + 1).toNat)

end Moment

/-- The days of the week, from Sunday on. -/
def weekdays : List String :=
  ["Sunday", "Monday", "Tuesday", "Wednesday", "Thursday", "Friday", "Saturday"]

def months : List String :=
  ["January", "February", "March", "April", "May", "June", "July", "August", "September",
    "October", "November", "December"]

/-- What is shown for a letter: a number of so many digits with something before them, a word that
may be written in another case, or what other letters show. -/
inductive MomentPart where
  | number (digits : Nat) (filling : Char) (value : Int)
  | word (word : String) (isLowered : Bool)
  | others (format : String)
  deriving Repr, DecidableEq

def Moment.part? (moment : Moment) (letter : Char) : Option MomentPart :=
  let two (n : Nat) : Option MomentPart := some (.number 2 '0' n)
  let blank (n : Nat) : Option MomentPart := some (.number 2 ' ' n)
  let word (words : List String) (n : Nat) : Option MomentPart :=
    some (.word (words.getD n "") false)
  let short (words : List String) (n : Nat) : Option MomentPart :=
    some (.word (String.ofList ((words.getD n "").toList.take 3)) false)
  let hour := if moment.hour % 12 = 0 then 12 else moment.hour % 12
  let half := if moment.hour < 12 then "AM" else "PM"
  let (weekYear, week) := moment.week
  match letter with
  | 'Y' => some (.number 4 '0' moment.year)
  | 'C' => some (.number 2 '0' (moment.year.fdiv 100))
  | 'y' => some (.number 2 '0' (moment.year.fmod 100))
  | 'G' => some (.number 4 '0' weekYear)
  | 'g' => some (.number 2 '0' (weekYear.fmod 100))
  | 'V' => two week
  | 'm' => two moment.month
  | 'd' => two moment.day
  | 'e' => blank moment.day
  | 'H' => two moment.hour
  | 'k' => blank moment.hour
  | 'I' => two hour
  | 'l' => blank hour
  | 'M' => two moment.minute
  | 'S' => two moment.second
  | 'j' => some (.number 3 '0' (moment.dayOfYear + 1 : Nat))
  | 'u' => some (.number 1 '0' (if moment.weekday = 0 then 7 else moment.weekday : Nat))
  | 'w' => some (.number 1 '0' moment.weekday)
  | 'q' => some (.number 1 '0' ((moment.month - 1) / 3 + 1 : Nat))
  | 'U' => two ((moment.dayOfYear + 7 - moment.weekday) / 7)
  | 'W' => two ((moment.dayOfYear + 7 - (moment.weekday + 6) % 7) / 7)
  | 's' => some (.number 1 '0' moment.toSeconds)
  | 'A' => word weekdays moment.weekday
  | 'a' => short weekdays moment.weekday
  | 'B' => word months (moment.month - 1)
  | 'b' | 'h' => short months (moment.month - 1)
  | 'p' => some (.word half true)
  | 'P' => some (.word half.toLower true)
  | 'Z' => some (.word "UTC" true)
  | 'n' => some (.word "\n" false)
  | 't' => some (.word "\t" false)
  | '%' => some (.word "%" false)
  | 'z' => some (.word "+0000" false)
  | 'D' | 'x' => some (.others "%m/%d/%y")
  | 'F' => some (.others "%Y-%m-%d")
  | 'T' | 'X' => some (.others "%H:%M:%S")
  | 'R' => some (.others "%H:%M")
  | 'r' => some (.others "%I:%M:%S %p")
  | 'c' => some (.others "%a %b %e %H:%M:%S %Y")
  | _ => none

def filled (filling : Char) (width : Nat) (cs : List Char) : List Char :=
  List.replicate (width - cs.length) filling ++ cs

/-- What is shown for one letter, with the flags and the width before it. -/
def shownPart (flags : List Char) (width? : Option Nat) (inner : String → List Char) :
    MomentPart → List Char
  | .number digits filling value =>
    let plain := Nat.toDigits 10 value.natAbs
    let sign := if value < 0 then ['-'] else []
    match (flags.filter ['-', '_', '0', '+'].contains).getLast? with
    | some '-' => sign ++ plain
    | some '_' => filled ' ' (width?.getD digits) (sign ++ plain)
    | flag? =>
      let filling := if flag?.isSome then '0' else if width?.isSome && filling = '0' then '0'
        else filling
      sign ++ filled filling ((width?.getD digits) - sign.length) plain
  | .word word isLowered =>
    let cs := word.toList
    let cs :=
      if flags.contains '#' then
        if isLowered then cs.map Char.toLower else cs.map Char.toUpper
      else if flags.contains '^' then cs.map Char.toUpper
      else cs
    filled (if flags.contains '0' then '0' else ' ') (width?.getD 0) cs
  | .others format =>
    let cs := inner format
    let cs := if flags.contains '^' then cs.map Char.toUpper else cs
    filled (if flags.contains '0' then '0' else ' ') (width?.getD 0) cs

/-- A moment as a format lays it out. Formats in letters lie one in another once. -/
def Moment.laidOut (moment : Moment) : (depth fuel : Nat) → List Char → List Char
  | _, 0, cs => cs
  | 0, _, cs => cs
  | depth + 1, fuel + 1, '%' :: rest =>
    let flags := rest.takeWhile ['-', '_', '0', '^', '#', '+'].contains
    let behind := rest.drop flags.length
    let digits := behind.takeWhile Char.isDigit
    let width? := if digits.isEmpty then none else some (numberOfDigits digits)
    let behind := behind.drop digits.length
    let colons := behind.takeWhile (· = ':')
    let behind := (behind.drop colons.length).dropWhile fun c => c = 'E' || c = 'O'
    match behind with
    | [] => '%' :: rest
    | letter :: after =>
      let more := moment.laidOut (depth + 1) fuel after
      if letter = 'N' then
        let digits := filled '0' 9 (Nat.toDigits 10 moment.nanosecond)
        digits.take (width?.getD 9) ++ more
      else if letter = 'z' && !colons.isEmpty then
        "+00:00".toList ++ (if colons.length = 2 then ":00".toList else []) ++ more
      else match moment.part? letter with
        | some part =>
          shownPart flags width? (fun format => moment.laidOut depth 20 format.toList) part ++ more
        | none => '%' :: rest.take (rest.length - after.length) ++ more
  | depth, fuel + 1, c :: rest => c :: moment.laidOut depth fuel rest
  | _, _, [] => []

def Moment.toText (moment : Moment) (format : String) : String :=
  String.ofList (moment.laidOut 2 (format.length + 1) format.toList)

/-! Moments in words, and the program that shows moments. -/

namespace Date

/-- What words say about a moment: a day, a time, and what comes on top of them. -/
structure Description where
  day? : Option (Int × Nat × Nat) := none
  time? : Option (Nat × Nat × Nat × Nat) := none
  weekday? : Option (Nat × Int) := none
  moreMonths : Int := 0
  moreDays : Int := 0
  moreSeconds : Int := 0
  nanoseconds : Nat := 0
  /-- The seconds from the start of 1970, if these are given. -/
  count? : Option Int := none
  /-- How far the place that is meant is ahead of the universal time, in seconds. -/
  shift : Int := 0
  /-- Whether the last word has been a time, so that a number may be such a shift. -/
  isOpen : Bool := false

def digits? (text : String) : Option Nat :=
  if !text.isEmpty && text.toList.all Char.isDigit then some (numberOfDigits text.toList) else none

def fraction (digits : List Char) : Nat :=
  numberOfDigits ((digits ++ List.replicate 9 '0').take 9)

def daysIn (year : Int) (month : Nat) : Nat :=
  (Moment.daysTo year (month + 1) 1 - Moment.daysTo year month 1).toNat

def validDay? (year month day : Nat) : Option (Int × Nat × Nat) :=
  if 1 ≤ month && month ≤ 12 && 1 ≤ day && day ≤ daysIn year month then some (year, month, day)
  else none

/-- The place of the name of which a word is the whole or the first letters. -/
def named? (names : List String) (word : String) : Option Nat :=
  let word := word.toLower
  names.findIdx? fun name =>
    name.toLower = word || String.ofList (name.toLower.toList.take 3) = word

/-- A time: hours, minutes, seconds and parts of them between colons. -/
def timeIn? (text : String) : Option (Nat × Nat × Nat × Nat) := do
  let check (hour minute second part : Nat) : Option (Nat × Nat × Nat × Nat) :=
    if hour < 24 && minute < 60 && second ≤ 60 then some (hour, minute, second, part) else none
  match piecesAt ':' text with
  | [hour, minute] => check (← digits? hour) (← digits? minute) 0 0
  | [hour, minute, second] =>
    match piecesAt '.' second with
    | [second] => check (← digits? hour) (← digits? minute) (← digits? second) 0
    | [second, part] =>
      let _ ← digits? part
      check (← digits? hour) (← digits? minute) (← digits? second) (fraction part.toList)
    | _ => none
  | _ => none

/-- A day: a year, a month and a day with signs between them. -/
def dayIn? (text : String) : Option (Int × Nat × Nat) := do
  match piecesAt '-' text, piecesAt '/' text with
  | [year, month, day], _ =>
    if year.length = 4 then validDay? (← digits? year) (← digits? month) (← digits? day) else none
  | _, [month, day, year] => validDay? (← digits? year) (← digits? month) (← digits? day)
  | _, _ =>
    if text.length = 8 then
      let n ← digits? text
      validDay? (n / 10000) (n / 100 % 100) (n % 100)
    else none

/-- The name of a place that has the universal time. -/
def isUniversal (word : String) : Bool :=
  ["UTC", "GMT", "Z", "UT"].contains word.toUpper

/-- How far a place is ahead of the universal time, in seconds: hours with a sign, or hours and
minutes. -/
def shift? (word : String) : Option (Option Int) :=
  match word.toList with
  | sign :: rest =>
    let digits := rest.filter (· ≠ ':')
    if (sign = '+' || sign = '-') && !digits.isEmpty && digits.all Char.isDigit then
      let n := numberOfDigits digits
      let minutes := if digits.length ≤ 2 then n * 60 else n / 100 * 60 + n % 100
      let seconds : Int := (minutes * 60 : Nat)
      some (if 1440 < minutes then none else some (if sign = '-' then -seconds else seconds))
    else none
  | [] => none

namespace Description

def add? (given : Description) (count : Int) (unit : String) : Option Description :=
  let unit := unit.toLower
  let unit := if 3 < unit.length && unit.endsWith "s" then String.ofList unit.toList.dropLast
    else unit
  match unit with
  | "year" => some { given with moreMonths := given.moreMonths + 12 * count }
  | "month" => some { given with moreMonths := given.moreMonths + count }
  | "fortnight" => some { given with moreDays := given.moreDays + 14 * count }
  | "week" => some { given with moreDays := given.moreDays + 7 * count }
  | "day" => some { given with moreDays := given.moreDays + count }
  | "hour" => some { given with moreSeconds := given.moreSeconds + 3600 * count }
  | "minute" | "min" => some { given with moreSeconds := given.moreSeconds + 60 * count }
  | "second" | "sec" => some { given with moreSeconds := given.moreSeconds + count }
  | _ => none

/-- What a word says, with those behind it, which are left. -/
def take? (given : Description) (word : String) (rest : List String) :
    Option (Description × List String) := do
  let isOpen := given.isOpen
  let given := { given with isOpen := false }
  let isAgo := rest.head?.any fun word => word.toLower = "ago"
  let ago : Option (Int × List String) := if isAgo then some (-1, rest.drop 1) else some (1, rest)
  match word.toLower with
  | "now" | "today" => return (given, rest)
  | "yesterday" => return ({ given with moreDays := given.moreDays - 1 }, rest)
  | "tomorrow" => return ({ given with moreDays := given.moreDays + 1 }, rest)
  | "am" | "pm" =>
    let (hour, minute, second, part) ← given.time?
    if hour = 0 || 12 < hour then none
    else
      let hour := hour % 12 + if word.toLower = "pm" then 12 else 0
      return ({ given with time? := some (hour, minute, second, part) }, rest)
  | "next" | "last" =>
    let count : Int := if word.toLower = "next" then 1 else -1
    match rest with
    | unit :: rest =>
      match named? weekdays unit with
      | some n => return ({ given with weekday? := some (n, count) }, rest)
      | none => return (← given.add? count unit, rest)
    | [] => none
  | _ =>
    if let some time := timeIn? word then
      if given.time?.isSome then none
      else return ({ given with time? := some time, isOpen := true }, rest)
    else if let some day := dayIn? word then
      if given.day?.isSome then none else return ({ given with day? := some day }, rest)
    else if isUniversal word then return (given, rest)
    else if let some shift? := (if isOpen then shift? word else none) then
      return ({ given with shift := ← shift? }, rest)
    else if let some n := named? weekdays word then
      return ({ given with weekday? := some (n, 0) }, rest)
    else if let some month := named? months word then
      match rest with
      | day :: year :: rest =>
        let day := String.ofList (day.toList.filter (· ≠ ','))
        match digits? year with
        | some year =>
          return ({ given with day? := ← validDay? year (month + 1) (← digits? day) }, rest)
        | none => none
      | _ => none
    else if let some (count, after) := unitOf? word then
      let (sign, rest) ← (if after = "" then some (1, rest) else ago)
      if after ≠ "" then return (← given.add? (sign * count) after, rest)
      else
        match rest with
        | unit :: rest =>
          let isAgo := rest.head?.any fun word => word.toLower = "ago"
          let sign : Int := if isAgo then -1 else 1
          match named? months unit, rest with
          | some month, year :: rest =>
            return ({ given with
              day? := ← validDay? (← digits? year) (month + 1) count.toNat }, rest)
          | _, _ =>
            return (← given.add? (sign * count) unit, if isAgo then rest.drop 1 else rest)
        | [] => none
    else
      let (sign, rest) ← ago
      return (← given.add? sign word, rest)
where
  /-- The number with a sign at the start of a word, and the letters behind it. -/
  unitOf? (word : String) : Option (Int × String) :=
    let cs := word.toList
    let (isNegative, cs) := match cs with
      | '-' :: cs => (true, cs)
      | '+' :: cs => (false, cs)
      | cs => (false, cs)
    let digits := cs.takeWhile Char.isDigit
    let n : Int := numberOfDigits digits
    let after := cs.drop digits.length
    if digits.isEmpty || !after.all Char.isAlpha then none
    else some (if isNegative then -n else n, String.ofList after)

def takeAll? : (fuel : Nat) → Description → List String → Option Description
  | 0, _, _ => none
  | _, given, [] => some given
  | fuel + 1, given, word :: rest => do
    let (given, rest) ← given.take? word rest
    takeAll? fuel given rest

/-- The moment that is described, as seen from another one. -/
def moment (given : Description) (now : Moment) : Moment :=
  match given.count? with
  | some count => Moment.ofSeconds count given.nanoseconds
  | none =>
    let (year, month, day) := given.day?.getD (now.year, now.month, now.day)
    let isDay := given.day?.isSome || given.weekday?.isSome
    let (hour, minute, second, part) := given.time?.getD
      (if isDay then (0, 0, 0, 0) else (now.hour, now.minute, now.second, now.nanosecond))
    let day := Moment.daysTo year ((month : Int) + given.moreMonths) day + given.moreDays
    let day := match (if given.day?.isSome then none else given.weekday?) with
      | none => day
      | some (weekday, count) =>
        let today := (day + 4).fmod 7
        let ahead := ((weekday : Int) - today).fmod 7
        day + ahead + 7 * (if 0 < count && ahead ≠ 0 then count - 1 else count)
    let seconds : Int := (hour * 3600 + minute * 60 + second : Nat)
    Moment.ofSeconds (day * 86400 + seconds + given.moreSeconds - given.shift) part

end Description

def ofText? (text : String) : Option Description :=
  match text.toList.dropWhile (· = ' ') with
  | '@' :: rest =>
    let (isNegative, rest) := match rest with
      | '-' :: rest => (true, rest)
      | rest => (false, rest)
    let whole := rest.takeWhile Char.isDigit
    let n : Int := numberOfDigits whole
    let count := if isNegative then -n else n
    match whole, rest.drop whole.length with
    | [], _ => none
    | _, [] => some { count? := some count }
    | _, '.' :: part =>
      if part.all Char.isDigit then
        some { count? := some count, nanoseconds := fraction part }
      else none
    | _, _ => none
  | _ =>
    -- A letter between a day and a time counts as a blank, as does a sign before a number.
    let rec spaced : List Char → List Char
      | a :: t :: b :: rest =>
        if a.isDigit && (t = 'T' || t = 't') && b.isDigit then a :: ' ' :: spaced (b :: rest)
        else if a.isDigit && (t = 'Z' || t = 'z') then a :: ' ' :: spaced (t :: b :: rest)
        else a :: spaced (t :: b :: rest)
      | [a, z] => if a.isDigit && (z = 'Z' || z = 'z') then [a, ' ', z] else [a, z]
      | cs => cs
    let words := (piecesAt ' ' (String.ofList (spaced text.toList))).filter (· ≠ "")
    let rec joined : List String → List String
      | "-" :: word :: rest => ("-" ++ word) :: joined rest
      | "+" :: word :: rest => ("+" ++ word) :: joined rest
      | word :: rest => zoned word ++ joined rest
      | [] => []
    let words := joined words
    if words.isEmpty then some { time? := some (0, 0, 0, 0) }
    else Description.takeAll? (words.length + 1) {} words
where
  /-- A time apart from the place behind it. -/
  zoned (word : String) : List String :=
    let cs := word.toList
    let time := cs.takeWhile fun c => c.isDigit || c = ':' || c = '.'
    let zone := cs.drop time.length
    if time.contains ':' && (zone.head? = some '+' || zone.head? = some '-') then
      [String.ofList time, String.ofList zone]
    else [word]

/-- When scripts start, in seconds from the start of 1970. -/
def firstSecond : Int := 1767225600

/-- The moment at which the program runs. -/
def now : Sh Moment := do
  let clock := (← get).clock
  return Moment.ofSeconds (firstSecond + (clock / 1000000000 : Nat)) (clock % 1000000000)

/-- The formats of the standard for days and times, by how exact they are. -/
def standardFormat? (isLoose : Bool) (exactness : String) : Option String :=
  let mark := if isLoose then " " else "T"
  let names := [("date", "%Y-%m-%d"), ("hours", "%Y-%m-%d" ++ mark ++ "%H%:z"),
    ("minutes", "%Y-%m-%d" ++ mark ++ "%H:%M%:z"),
    ("seconds", "%Y-%m-%d" ++ mark ++ "%H:%M:%S%:z"),
    ("ns", "%Y-%m-%d" ++ mark ++ "%H:%M:%S" ++ (if isLoose then "." else ",") ++ "%N%:z")]
  (names.find? fun (name, _) => exactness.toList.isPrefixOf name.toList).map Prod.snd

end Date

open Date in
def date : Program := fun _ arguments => do
  let given ← Sh.takeAll 1 ("d:,date f:,file I::,iso-8601 R,rfc-email,rfc-822,rfc-2822 " ++
    "rfc-3339: r:,reference s:,set u,utc,universal debug resolution") arguments
  let now ← now
  let formats := given.operands.filter fun operand => operand.startsWith "+"
  match given.operands, formats with
  | _ :: second :: _, _ => Sh.failExtra 1 second
  | [other], [] => Sh.fail 1 ("invalid date " ++ quotedName other)
  | _, _ => pure ()
  let format ←
    match formats, given.latest? ["I", "R", "rfc-3339"] with
    | format :: _, none => pure (String.ofList (format.toList.drop 1))
    | _ :: _, some _ => Sh.fail 1 "multiple output formats specified"
    | [], some "R" => pure "%a, %d %b %Y %H:%M:%S %z"
    | [], some key =>
      let isLoose := key = "rfc-3339"
      let exactness := (given.last? key).getD "date"
      match standardFormat? isLoose exactness with
      | some format => pure format
      | none =>
        Sh.failChoice 1 (if isLoose then "--rfc-3339" else "--iso-8601") exactness
          (if isLoose then [["date"], ["seconds"], ["ns"]]
            else [["hours"], ["minutes"], ["date"], ["seconds"], ["ns"]])
    | [], none => pure "%a %b %e %H:%M:%S %Z %Y"
  let moment ←
    match given.last? "d", given.last? "r" with
    | some text, _ =>
      match ofText? text with
      | some description => pure (description.moment now)
      | none => Sh.fail 1 ("invalid date " ++ quotedName text)
    | none, some path =>
      match (← Sh.workspace).find (pathOf path) with
      | .ok _ => pure now
      | .error fault => Sh.fail 1 (shownName path ++ ": " ++ fault.reason)
    | none, none => pure now
  Sh.say (moment.toText format ++ "\n")
  return 0

end MutationTesting.Shell.Utility
