import GuardedSms.Phone.Plan

/-!
# Numbering plan data

The plans of some regions, and the identifiers and codes of all.
-/
namespace GuardedSms.Phone

namespace Plan

open Pattern (optional group atEnd)

/-- The codes by which a Brazilian carrier is chosen for one call. -/
def brazilianCarrier : Pattern Digit :=
  word "1" ++ oneOf "245"
  <|> word "2" ++ oneOf "1235"
  <|> word "31"
  <|> word "4" ++ oneOf "13"
  <|> oneOf "56" ++ word "5"
  <|> word "99"

/-- Brazil. -/
def brazil : Plan where
  region := "BR"
  code := 55
  exitCode := some (word "00" ++ brazilianCarrier)
  trunkCode := some [0]
  trunkPattern := some ((word "0" <|> word "90") ++
    optional (group 1 brazilianCarrier ++ group 2 (digits 10 11)))
  rewriting := some [.group 2]
  general :=
    oneOf "123467" ++ digits 9 10
    <|> word "55" ++ oneOf "012346789" ++ digits 8
    <|> oneOf "34" ++ digits 7
    <|> word "55" ++ digits 7 8
    <|> (word "5" ++ oneOf "012346789" <|> oneOf "89" ++ digits 1) ++ digits 7 9
  kinds := [
    ⟨[9, 10], oneOf "59" ++ word "00" ++ digits 6 7⟩,
    ⟨[9, 10], word "800" ++ digits 6 7⟩,
    ⟨[8, 10],
      (word "30" ++ oneOf "03" ++ digits 3
       <|> word "4" ++
             (word "0" ++ (word "0" ++ digits 1 <|> word "20") <|> word "370" <|> word "864")) ++
        digits 4
      <|> word "300" ++ digits 5⟩,
    ⟨[10],
      (oneOf "14689" ++ oneOf "123456789"
       <|> word "2" ++ oneOf "12478"
       <|> word "3" ++ oneOf "1234578"
       <|> word "5" ++ oneOf "1345"
       <|> word "7" ++ oneOf "134579") ++ oneOf "2345" ++ digits 7⟩,
    ⟨[10, 11],
      (oneOf "14689" ++ oneOf "123456789"
       <|> word "2" ++ oneOf "12478"
       <|> word "3" ++ oneOf "1234578"
       <|> word "5" ++ oneOf "1345"
       <|> word "7" ++ oneOf "134579") ++ (word "7" <|> word "9" ++ digits 1) ++ digits 7⟩]

/-- Switzerland. -/
def switzerland : Plan where
  region := "CH"
  code := 41
  exitCode := some (word "00")
  trunkCode := some [0]
  general := word "8" ++ digits 11 <|> oneOf "23456789" ++ digits 8
  kinds := [
    ⟨[9], word "90" ++ oneOf "016" ++ digits 6⟩,
    ⟨[9], word "800" ++ digits 6⟩,
    ⟨[9], word "84" ++ oneOf "0248" ++ digits 6⟩,
    ⟨[9], word "878" ++ digits 6⟩,
    ⟨[9], word "74" ++ oneOf "0248" ++ digits 6⟩,
    ⟨[9], word "5" ++ oneOf "18" ++ digits 7⟩,
    ⟨[12], word "860" ++ digits 9⟩,
    ⟨[9],
      (word "2" ++ oneOf "12467"
       <|> word "3" ++ oneOf "1234"
       <|> word "4" ++ oneOf "134"
       <|> word "5" ++ oneOf "256"
       <|> word "6" ++ oneOf "12"
       <|> oneOf "789" ++ word "1") ++ digits 7⟩,
    ⟨[9], (word "6" ++ oneOf "89" <|> word "7" ++ oneOf "2356789") ++ digits 7⟩]

/-- France. -/
def france : Plan where
  region := "FR"
  code := 33
  exitCode := some (word "00")
  trunkCode := some [0]
  general := oneOf "123456789" ++ digits 8
  kinds := [
    ⟨[9],
      word "836" ++ (word "0" ++ oneOf "01236789" <|> oneOf "123456789" ++ digits 1) ++ digits 4
      <|> word "8" ++
            (word "1" ++ oneOf "23456789"
             <|> word "2" ++ oneOf "234789"
             <|> word "3" ++ oneOf "012345789"
             <|> oneOf "569" ++ digits 1
             <|> word "8" ++ oneOf "012356789") ++ digits 6⟩,
    ⟨[9], word "80" ++ oneOf "012345" ++ digits 6⟩,
    ⟨[9],
      word "8" ++
        (word "1" ++ oneOf "01"
         <|> word "2" ++ oneOf "0156"
         <|> word "4" ++ oneOf "024"
         <|> word "84") ++ digits 6⟩,
    ⟨[9], word "9" ++ digits 8⟩,
    ⟨[9], word "80" ++ oneOf "6789" ++ digits 6⟩,
    ⟨[9],
      (word "26" ++ oneOf "013456789" <|> word "59" ++ oneOf "12356789") ++ digits 6
      <|> (oneOf "13" ++ digits 1
           <|> word "2" ++ oneOf "012345789"
           <|> word "4" ++ oneOf "123456789"
           <|> word "5" ++ oneOf "012345678") ++ digits 7⟩,
    ⟨[9],
      (word "6" ++
         (oneOf "01245678" ++ digits 1
          <|> word "3" ++ oneOf "012345678"
          <|> word "9" ++ oneOf "589")
       <|> word "7" ++ oneOf "3456789" ++ digits 1) ++ digits 6⟩]

/-- Italy. -/
def italy : Plan where
  region := "IT"
  code := 39
  exitCode := some (word "00")
  general :=
    word "0" ++ digits 5 11
    <|> word "1" ++ digits 8 10
    <|> word "3" ++ (oneOf "012345678" ++ digits 7 10 <|> word "9" ++ digits 7 8)
    <|> (word "43" <|> word "55" <|> word "70") ++ digits 8
    <|> word "8" ++ digits 5 ++ optional (digits 2 4)
  kinds := [
    ⟨[6, 8, 9, 10],
      (word "0878" ++ digits 3
       <|> word "89" ++
             (word "2" ++ digits 1
              <|> word "3" ++ oneOf "04"
              <|> word "4" ++ (oneOf "01234" <|> oneOf "56789" ++ digits 2)
              <|> word "5" ++ oneOf "01234")) ++ digits 2
      <|> (word "1" ++ (word "44" <|> word "6" ++ oneOf "346")
           <|> word "89" ++ (word "38" <|> word "5" ++ oneOf "56789" <|> word "9")) ++ digits 6⟩,
    ⟨[6, 9], word "80" ++ (word "0" ++ digits 3 <|> word "3") ++ digits 3⟩,
    ⟨[6, 9], word "84" ++ (oneOf "08" ++ digits 3 <|> oneOf "17") ++ digits 3⟩,
    ⟨[10], word "55" ++ digits 8⟩,
    ⟨[9, 10], word "1" ++ (word "78" ++ digits 1 <|> word "99") ++ digits 6⟩,
    ⟨[11, 12], word "3" ++ oneOf "2345678" ++ digits 9 10⟩,
    ⟨[6, 7, 8, 9, 10, 11, 12],
      word "0" ++ (word "669" ++ oneOf "012345679" ++ digits 1 6 <|> word "831" ++ digits 2 8)
      <|> word "0" ++
            (word "1" ++
               (oneOf "0159" ++ digits 1
                <|> oneOf "27" ++ oneOf "12345"
                <|> word "31"
                <|> word "4" ++ oneOf "1234"
                <|> word "6" ++ oneOf "1356"
                <|> word "8" ++ oneOf "23457")
             <|> word "2" ++ digits 2
             <|> word "3" ++
                   (oneOf "0159" ++ digits 1
                    <|> word "2" ++ oneOf "1234"
                    <|> word "3" ++ oneOf "12"
                    <|> oneOf "48" ++ oneOf "123456"
                    <|> word "6" ++ oneOf "23459"
                    <|> word "7" ++ oneOf "1234567")
             <|> word "4" ++
                   (oneOf "0159" ++ digits 1
                    <|> oneOf "23" ++ oneOf "123456789"
                    <|> word "4" ++ oneOf "245"
                    <|> word "6" ++ oneOf "12345"
                    <|> word "7" ++ oneOf "1234"
                    <|> word "81")
             <|> word "5" ++
                   (oneOf "0159" ++ digits 1
                    <|> word "2" ++ oneOf "12345"
                    <|> word "3" ++ oneOf "23456"
                    <|> word "4" ++ oneOf "12345679"
                    <|> word "6" ++ oneOf "456"
                    <|> word "7" ++ oneOf "1234578"
                    <|> word "8" ++ oneOf "345678")
             <|> word "6" ++ (oneOf "012345789" ++ digits 1 <|> word "6" ++ oneOf "012345678")
             <|> word "7" ++
                   (oneOf "0159" ++ digits 1
                    <|> word "2" ++ oneOf "12"
                    <|> word "3" ++ oneOf "1234567"
                    <|> word "4" ++ oneOf "2346"
                    <|> word "6" ++ oneOf "13569"
                    <|> word "7" ++ oneOf "13456"
                    <|> word "8" ++ oneOf "123459")
             <|> word "8" ++
                   (oneOf "0159" ++ digits 1
                    <|> word "2" ++ oneOf "34578"
                    <|> word "3" ++ oneOf "2356"
                    <|> oneOf "678" ++ oneOf "12345")
             <|> word "9" ++
                   (oneOf "0159" ++ digits 1
                    <|> oneOf "238" ++ oneOf "12345"
                    <|> word "4" ++ oneOf "12"
                    <|> word "6" ++ oneOf "12345678"
                    <|> word "7" ++ oneOf "123456")) ++ digits 2 7⟩,
    ⟨[9, 10],
      word "3" ++ oneOf "23456789" ++ digits 7 8 <|> (word "31" <|> word "43") ++ digits 8⟩]

/-- Monaco. -/
def monaco : Plan where
  region := "MC"
  code := 377
  exitCode := some (word "00")
  trunkCode := some [0]
  general := (oneOf "3489" <|> oneOf "67" ++ digits 1) ++ digits 7
  kinds := [
    ⟨[8], (word "800" <|> word "90" ++ digits 1) ++ digits 5⟩,
    ⟨[8], (word "870" <|> word "9" ++ oneOf "234789" ++ digits 1) ++ digits 5⟩,
    ⟨[8, 9],
      word "4" ++ (oneOf "46" ++ digits 1 <|> word "5" ++ oneOf "123456789") ++ digits 5
      <|> (word "3" <|> oneOf "67" ++ digits 1) ++ digits 7⟩]

/-- New Zealand. -/
def newZealand : Plan where
  region := "NZ"
  code := 64
  exitCode := some (word "0" ++ (word "0" <|> word "161"))
  trunkCode := some [0]
  general :=
    oneOf "1289" ++ digits 9
    <|> word "50" ++ digits 5 ++ optional (digits 2 3)
    <|> oneOf "2789" ++ digits 7 8
    <|> (oneOf "34" ++ digits 1 <|> word "6" ++ oneOf "012356789") ++ digits 6
    <|> word "8" ++ digits 4 6
  kinds := [
    ⟨[7, 8, 9, 10],
      (word "1" ++ oneOf "1345789" ++ digits 5
       <|> word "50" ++
             (word "0" ++ oneOf "08" <|> word "30" <|> word "66" <|> word "77" <|> word "88")) ++
        digits 3
      <|> word "90" ++ digits 6 8⟩,
    ⟨[8, 9, 10], word "508" ++ digits 6 7 <|> word "80" ++ digits 6 8⟩,
    ⟨[9], word "70" ++ digits 7⟩,
    ⟨[5, 6, 7, 8, 9, 10],
      word "8" ++
        (word "1" ++ oneOf "16789"
         <|> word "22"
         <|> word "3" ++ digits 1
         <|> word "4" ++ oneOf "045"
         <|> word "5" ++ oneOf "459"
         <|> word "6" ++ oneOf "2356789"
         <|> word "7" ++ oneOf "0123579"
         <|> word "90") ++ digits 2 7⟩,
    ⟨[8],
      word "240" ++ digits 5
      <|> (word "3" ++ oneOf "2345679"
           <|> oneOf "49" ++ oneOf "23456789"
           <|> word "6" ++ oneOf "2356789"
           <|> word "7" ++ oneOf "2345789") ++ digits 6⟩,
    ⟨[8, 9, 10],
      word "2" ++ (oneOf "012789" ++ digits 1 <|> word "6") ++ digits 6 7
      <|> word "2" ++ (word "1" ++ digits 1 <|> word "75") ++ digits 5⟩]

/-- Singapore. -/
def singapore : Plan where
  region := "SG"
  code := 65
  exitCode := some (word "0" ++ oneOf "0123" ++ digits 1)
  general :=
    ((word "1" ++ digits 1 <|> word "8") ++ digits 2 <|> word "7000") ++ digits 7
    <|> oneOf "3689" ++ digits 7
  kinds := [
    ⟨[11], word "1900" ++ digits 7⟩,
    ⟨[10, 11], (word "18" <|> word "8") ++ word "00" ++ digits 7⟩,
    ⟨[8], (word "3" ++ oneOf "12" ++ digits 1 <|> word "666") ++ digits 5⟩,
    ⟨[11], word "7000" ++ digits 7⟩,
    ⟨[8],
      word "662" ++ oneOf "012456789" ++ digits 4
      <|> word "6" ++
            (oneOf "01234578" ++ digits 1
             <|> word "6" ++ oneOf "01345789"
             <|> word "9" ++ oneOf "012356789") ++ digits 5⟩,
    ⟨[8],
      word "80" ++ oneOf "123456789" ++ digits 5
      <|> (word "8" ++ oneOf "123456789" <|> word "9" ++ oneOf "012345678") ++ digits 6⟩]

/-- San Marino. -/
def sanMarino : Plan where
  region := "SM"
  code := 378
  exitCode := some (word "00")
  trunkPattern := some (group 1 (oneOf "89" ++ digits 5) ++ atEnd)
  rewriting := some [.digits [0, 5, 4, 9], .group 1]
  general := (word "0549" <|> oneOf "567" ++ digits 1) ++ digits 6
  kinds := [
    ⟨[8], word "7" ++ oneOf "178" ++ digits 6⟩,
    ⟨[8], word "5" ++ oneOf "158" ++ digits 6⟩,
    ⟨[10], word "0549" ++ (word "8" ++ oneOf "015789" <|> word "9" ++ digits 1) ++ digits 4⟩,
    ⟨[8], word "6" ++ oneOf "16" ++ digits 6⟩]

/-- Vatican City. -/
def vatican : Plan where
  region := "VA"
  code := 39
  exitCode := some (word "00")
  leading := some (word "06698")
  general :=
    word "0" ++ digits 5 10
    <|> word "3" ++ oneOf "012345678" ++ digits 7 10
    <|> word "55" ++ digits 8
    <|> word "8" ++ digits 5 ++ optional (digits 2 4)
    <|> (word "1" ++ digits 1 <|> word "39") ++ digits 7 8
  kinds := [
    ⟨[6, 8, 9, 10],
      (word "0878" ++ digits 3
       <|> word "89" ++
             (word "2" ++ digits 1
              <|> word "3" ++ oneOf "04"
              <|> word "4" ++ (oneOf "01234" <|> oneOf "56789" ++ digits 2)
              <|> word "5" ++ oneOf "01234")) ++ digits 2
      <|> (word "1" ++ (word "44" <|> word "6" ++ oneOf "346")
           <|> word "89" ++ (word "38" <|> word "5" ++ oneOf "56789" <|> word "9")) ++ digits 6⟩,
    ⟨[6, 9], word "80" ++ (word "0" ++ digits 3 <|> word "3") ++ digits 3⟩,
    ⟨[6, 9], word "84" ++ (oneOf "08" ++ digits 3 <|> oneOf "17") ++ digits 3⟩,
    ⟨[10], word "55" ++ digits 8⟩,
    ⟨[9, 10], word "1" ++ (word "78" ++ digits 1 <|> word "99") ++ digits 6⟩,
    ⟨[11, 12], word "3" ++ oneOf "2345678" ++ digits 9 10⟩,
    ⟨[6, 7, 8, 9, 10, 11], word "06698" ++ digits 1 6⟩,
    ⟨[9, 10],
      word "3" ++ oneOf "123456789" ++ digits 8 <|> word "3" ++ oneOf "23456789" ++ digits 7⟩]

/-- The international freephone numbers, which belong to no region. -/
def international : Plan where
  region := "001"
  code := 800
  general := (word "00" <|> oneOf "123456789" ++ digits 1) ++ digits 6
  kinds := [
    ⟨[8], (word "00" <|> oneOf "123456789" ++ digits 1) ++ digits 6⟩]

/-- The plans whose numbers are listed here. Of a code all plans are listed or none, and they stand
in the order in which they are asked whose a number is. -/
def all : List Plan := [
  brazil, switzerland, france, italy, monaco, newZealand, singapore, sanMarino, vatican,
  international]

end Plan

/-- How numbers are dialled in the United States. Which numbers the United States and the other
regions of their code have is not listed. -/
def Home.unitedStates : Home where
  region := "US"
  code := 1
  exitCode := some (Plan.word "011")
  trunkCode := some [1]

/-- The two-letter identifiers of the known regions. -/
def regionIds : List String := [
  "AC", "AD", "AE", "AF", "AG", "AI", "AL", "AM", "AO", "AR", "AS", "AT", "AU", "AW", "AX", "AZ",
  "BA", "BB", "BD", "BE", "BF", "BG", "BH", "BI", "BJ", "BL", "BM", "BN", "BO", "BQ", "BR", "BS",
  "BT", "BW", "BY", "BZ", "CA", "CC", "CD", "CF", "CG", "CH", "CI", "CK", "CL", "CM", "CN", "CO",
  "CR", "CU", "CV", "CW", "CX", "CY", "CZ", "DE", "DJ", "DK", "DM", "DO", "DZ", "EC", "EE", "EG",
  "EH", "ER", "ES", "ET", "FI", "FJ", "FK", "FM", "FO", "FR", "GA", "GB", "GD", "GE", "GF", "GG",
  "GH", "GI", "GL", "GM", "GN", "GP", "GQ", "GR", "GT", "GU", "GW", "GY", "HK", "HN", "HR", "HT",
  "HU", "ID", "IE", "IL", "IM", "IN", "IO", "IQ", "IR", "IS", "IT", "JE", "JM", "JO", "JP", "KE",
  "KG", "KH", "KI", "KM", "KN", "KP", "KR", "KW", "KY", "KZ", "LA", "LB", "LC", "LI", "LK", "LR",
  "LS", "LT", "LU", "LV", "LY", "MA", "MC", "MD", "ME", "MF", "MG", "MH", "MK", "ML", "MM", "MN",
  "MO", "MP", "MQ", "MR", "MS", "MT", "MU", "MV", "MW", "MX", "MY", "MZ", "NA", "NC", "NE", "NF",
  "NG", "NI", "NL", "NO", "NP", "NR", "NU", "NZ", "OM", "PA", "PE", "PF", "PG", "PH", "PK", "PL",
  "PM", "PR", "PS", "PT", "PW", "PY", "QA", "RE", "RO", "RS", "RU", "RW", "SA", "SB", "SC", "SD",
  "SE", "SG", "SH", "SI", "SJ", "SK", "SL", "SM", "SN", "SO", "SR", "SS", "ST", "SV", "SX", "SY",
  "SZ", "TA", "TC", "TD", "TG", "TH", "TJ", "TK", "TL", "TM", "TN", "TO", "TR", "TT", "TV", "TW",
  "TZ", "UA", "UG", "US", "UY", "UZ", "VA", "VC", "VE", "VG", "VI", "VN", "VU", "WF", "WS", "XK",
  "YE", "YT", "ZA", "ZM", "ZW"]

/-- All country codes. -/
def countryCodes : List Nat := [
  1, 7, 20, 27, 30, 31, 32, 33, 34, 36, 39, 40, 41, 43, 44, 45, 46, 47, 48, 49, 51, 52, 53, 54, 55,
  56, 57, 58, 60, 61, 62, 63, 64, 65, 66, 81, 82, 84, 86, 90, 91, 92, 93, 94, 95, 98, 211, 212,
  213, 216, 218, 220, 221, 222, 223, 224, 225, 226, 227, 228, 229, 230, 231, 232, 233, 234, 235,
  236, 237, 238, 239, 240, 241, 242, 243, 244, 245, 246, 247, 248, 249, 250, 251, 252, 253, 254,
  255, 256, 257, 258, 260, 261, 262, 263, 264, 265, 266, 267, 268, 269, 290, 291, 297, 298, 299,
  350, 351, 352, 353, 354, 355, 356, 357, 358, 359, 370, 371, 372, 373, 374, 375, 376, 377, 378,
  380, 381, 382, 383, 385, 386, 387, 389, 420, 421, 423, 500, 501, 502, 503, 504, 505, 506, 507,
  508, 509, 590, 591, 592, 593, 594, 595, 596, 597, 598, 599, 670, 672, 673, 674, 675, 676, 677,
  678, 679, 680, 681, 682, 683, 685, 686, 687, 688, 689, 690, 691, 692, 800, 808, 850, 852, 853,
  855, 856, 870, 878, 880, 881, 882, 883, 886, 888, 960, 961, 962, 963, 964, 965, 966, 967, 968,
  970, 971, 972, 973, 974, 975, 976, 977, 979, 992, 993, 994, 995, 996, 998]

end GuardedSms.Phone
