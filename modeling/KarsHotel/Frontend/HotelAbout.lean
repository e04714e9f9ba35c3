import KarsHotel.Lib.JsText
import KarsHotel.Values

/-!
# The description of a hotel, section by section

The description is one text of lines with a label and a value. It is read into the state of an
editor and written back.

* `INFRASTRUCTURE_ITEMS`, `FACILITY_ITEMS`, `ROOM_GROUPS`, `LAUNDRY_PHRASES`, `LABEL_ALIASES`;
* `normalizePhrase`, `tokenize`, `joinLeftover`, `readList`, `readLaundry`: a value;
* `readLine`, `parseHotelAbout`: a text; `buildHotelAboutText`: a state.

Lower case is exact for the letters of the dictionaries, with which the result is compared; upper
case is a parameter (`UpperCase`).
-/

namespace KarsHotel

open JsText

/-! ## Dictionaries -/

/-- An item: its caption, how the text has it, and synonyms. -/
structure AboutItem where
  key : String
  label : String
  text : String
  synonyms : List String

def INFRASTRUCTURE_ITEMS : List AboutItem :=
  [⟨"pharmacy", "Аптека", "аптека", ["аптеки"]⟩,
   ⟨"supermarket", "Супермаркет", "супермаркет", ["супермаркеты", "гипермаркет",
     "продуктовый магазин", "продуктовые магазины"]⟩,
   ⟨"shops", "Магазины", "магазины", ["магазин"]⟩,
   ⟨"mall", "Торговый центр", "торговый центр", ["тц", "трц", "торговые центры",
     "торгово-развлекательный центр"]⟩,
   ⟨"cafe", "Кафе и рестораны", "кафе и рестораны", ["кафе", "ресторан", "рестораны",
     "кафе и ресторан", "столовая", "столовые"]⟩,
   ⟨"bank", "Банк / банкомат", "банк и банкоматы", ["банк", "банки", "банкомат", "банкоматы",
     "отделение банка"]⟩,
   ⟨"transport", "Остановка транспорта", "остановка общественного транспорта", ["остановка",
     "остановки", "остановка транспорта", "остановки общественного транспорта"]⟩,
   ⟨"railway", "Ж/д вокзал", "железнодорожный вокзал", ["вокзал", "жд вокзал", "ж/д вокзал",
     "ж/д станция"]⟩,
   ⟨"busStation", "Автовокзал", "автовокзал", []⟩,
   ⟨"airport", "Аэропорт", "аэропорт", []⟩,
   ⟨"park", "Парк / сквер", "парк", ["сквер", "парки", "городской парк"]⟩,
   ⟨"beach", "Пляж / набережная", "пляж и набережная", ["пляж", "набережная", "море"]⟩,
   ⟨"hospital", "Больница / поликлиника", "больница", ["поликлиника", "травмпункт"]⟩,
   ⟨"beauty", "Салон красоты", "салон красоты", ["парикмахерская"]⟩,
   ⟨"sights", "Достопримечательности", "достопримечательности", ["музей", "музеи", "театр"]⟩,
   ⟨"cityCentre", "Центр города", "центр города", []⟩]

def FACILITY_ITEMS : List AboutItem :=
  [⟨"parking", "Парковка", "парковка", ["автостоянка", "стоянка", "паркинг", "бесплатная парковка",
     "охраняемая парковка", "парковочные места"]⟩,
   ⟨"conference", "Конференц-зал", "конференц-зал", ["конференц зал", "конференц-залы",
     "конференц залы", "переговорная"]⟩,
   ⟨"luggage", "Камера хранения", "камера хранения багажа", ["камера хранения", "хранение багажа"]⟩,
   ⟨"elevator", "Лифт", "лифт", ["лифты"]⟩,
   ⟨"restaurant", "Ресторан", "ресторан", []⟩,
   ⟨"cafe", "Кафе / столовая", "кафе", ["столовая"]⟩,
   ⟨"bar", "Бар / лобби-бар", "лобби-бар", ["бар", "лобби бар", "кафе-бар"]⟩,
   ⟨"wifi", "Wi-Fi", "Wi-Fi", ["wifi", "wi fi", "вай-фай", "вай фай", "бесплатный wi-fi"]⟩,
   ⟨"sauna", "Сауна", "сауна", []⟩,
   ⟨"bathhouse", "Баня / хамам", "баня", ["хамам", "турецкая баня", "русская баня"]⟩,
   ⟨"pool", "Бассейн", "бассейн", []⟩,
   ⟨"gym", "Тренажёрный зал", "тренажёрный зал", ["тренажерный зал", "фитнес зал", "фитнес-зал",
     "спортзал", "спортивный зал", "фитнес-центр", "фитнес центр"]⟩,
   ⟨"spa", "СПА", "спа", ["spa", "спа-центр", "spa-центр", "spa центр", "спа центр"]⟩,
   ⟨"banquet", "Банкетный зал", "банкетный зал", []⟩,
   ⟨"reception24", "Круглосуточная стойка регистрации", "круглосуточная стойка регистрации", [
     "круглосуточный ресепшн", "круглосуточная регистрация"]⟩,
   ⟨"cooler", "Кулер на этажах", "кулер на этажах", ["кулер на этаже", "кулер", "кулер с водой",
     "кулеры на этажах", "кулеры"]⟩,
   ⟨"sharedFridge", "Общий холодильник", "холодильник", ["общий холодильник"]⟩,
   ⟨"airConditioning", "Кондиционирование", "сплит-система", ["кондиционер", "кондиционирование"]⟩,
   ⟨"souvenirs", "Сувенирный магазин", "сувенирный магазин", ["сувенирная лавка"]⟩,
   ⟨"shoeShine", "Чистка обуви", "чистка обуви", []⟩,
   ⟨"sewing", "Швейные принадлежности", "швейные принадлежности", [
     "предоставление швейных принадлежностей"]⟩,
   ⟨"concierge", "Услуги консьержа", "услуги консьержа", ["консьерж"]⟩,
   ⟨"excursions", "Экскурсии", "экскурсии", []⟩,
   ⟨"billiards", "Бильярд", "бильярд", ["бильярдная"]⟩,
   ⟨"tableTennis", "Настольный теннис", "настольный теннис", []⟩,
   ⟨"beauty", "Салон красоты", "салон красоты", ["парикмахерская"]⟩,
   ⟨"playground", "Детская площадка", "детская площадка", []⟩,
   ⟨"terrace", "Терраса", "терраса", ["веранда", "летняя веранда", "летняя терраса"]⟩,
   ⟨"library", "Библиотека", "библиотека", []⟩,
   ⟨"phone", "Телефон", "телефон", []⟩,
   ⟨"laundry", "Прачечная", "прачечная", []⟩,
   ⟨"electronicLocks", "Электронные замки", "электронные замки", ["электронный замок"]⟩,
   ⟨"massage", "Массаж", "массажный кабинет", ["массаж", "массажные услуги"]⟩,
   ⟨"kitchen", "Общая кухня", "общая кухня", ["кухня"]⟩,
   ⟨"lunchbox", "Ланч-боксы", "ланч-боксы", ["ланч боксы", "ланчбоксы",
     "предоставление ланч-боксов", "предоставление ланч боксов"]⟩,
   ⟨"businessCentre", "Бизнес-центр", "бизнес-центр", ["бизнес центр"]⟩,
   ⟨"microwave", "Микроволновая печь", "микроволновая печь", ["микроволновка"]⟩,
   ⟨"atm", "Банкомат", "банкомат", ["банкомат на территории отеля", "банкомат на территории"]⟩,
   ⟨"bikeRental", "Прокат велосипедов", "прокат велосипедов", []⟩,
   ⟨"roomService", "Доставка еды в номер", "доставка еды и напитков в номер", [
     "доставка еды в номер", "обслуживание номеров", "рум-сервис"]⟩,
   ⟨"dietMenu", "Диетическое меню", "диетическое меню по запросу", ["диетическое меню",
     "специальное диетическое меню по запросу"]⟩,
   ⟨"kidsMenu", "Детское меню", "детское меню", []⟩,
   ⟨"jacuzzi", "Джакузи", "гидромассажная ванна/джакузи", ["джакузи", "гидромассажная ванна"]⟩,
   ⟨"solarium", "Солярий", "солярий", []⟩,
   ⟨"relaxZone", "Зона отдыха", "зона отдыха", []⟩,
   ⟨"boardGames", "Настольные игры", "настольные игры", ["настольные игры/пазлы"]⟩,
   ⟨"babyCot", "Детская кроватка", "детская кровать", ["детская кроватка"]⟩]

/-- The groups of the rooms' card, with their titles. -/
def ROOM_GROUPS : List (String × List AboutItem) :=
  [("Мебель",
     [⟨"bed", "Кровать", "кровать", ["кровати", "двуспальная кровать", "односпальная кровать",
        "двуспальные кровати", "односпальные кровати"]⟩,
      ⟨"sofa", "Диван", "диван", []⟩,
      ⟨"wardrobe", "Шкаф", "шкаф", ["шкаф для одежды", "гардероб", "платяной шкаф",
        "шкаф/гардероб"]⟩,
      ⟨"nightstands", "Прикроватные тумбы", "прикроватные тумбы", ["прикроватные тумбочки",
        "прикроватная тумба", "тумбочки", "тумбочка", "тумбы", "тумба"]⟩,
      ⟨"desk", "Рабочий стол", "рабочий стол", ["письменный стол", "стол"]⟩,
      ⟨"chairs", "Стулья", "стулья", ["стул"]⟩,
      ⟨"armchairs", "Кресла", "кресла", ["кресло"]⟩,
      ⟨"hangers", "Вешалки", "вешалки", ["вешалка", "плечики"]⟩,
      ⟨"mirror", "Зеркало", "зеркало", ["настенное зеркало"]⟩,
      ⟨"coffeeTable", "Журнальный столик", "журнальный столик", []⟩,
      ⟨"orthoMattress", "Ортопедический матрас", "ортопедический матрас", []⟩]),
   ("Техника",
     [⟨"wifi", "Wi-Fi", "Wi-Fi", ["wifi", "wi fi", "вай-фай", "вай фай", "бесплатный wi-fi",
        "высокоскоростной wi-fi"]⟩,
      ⟨"tv", "Телевизор", "телевизор", ["тв", "телевизор с плоским экраном", "жк-телевизор",
        "спутниковое телевидение", "кабельное телевидение", "жк телевизор"]⟩,
      ⟨"airConditioning", "Кондиционер", "кондиционер", ["сплит-система", "кондиционирование",
        "система кондиционирования"]⟩,
      ⟨"fridge", "Холодильник", "холодильник", ["мини-холодильник"]⟩,
      ⟨"minibar", "Мини-бар", "мини-бар", ["минибар"]⟩,
      ⟨"kettle", "Чайник", "чайник", ["электрический чайник", "электрочайник"]⟩,
      ⟨"phone", "Телефон", "телефон", []⟩,
      ⟨"safe", "Сейф", "сейф", []⟩,
      ⟨"hairdryer", "Фен", "фен", []⟩,
      ⟨"heating", "Отопление", "отопление", []⟩,
      ⟨"electronicLocks", "Электронные замки", "электронные замки", ["электронный замок"]⟩,
      ⟨"soundproofing", "Звукоизоляция", "звукоизоляция", ["звуконепроницаемые стены и окна",
        "шумоизоляция"]⟩,
      ⟨"iron", "Утюг", "утюг", ["утюг и гладильная доска", "гладильная доска",
        "гладильные принадлежности"]⟩,
      ⟨"ventilation", "Вентиляция", "система вентиляции", ["вентиляция", "вентилятор"]⟩,
      ⟨"alarmClock", "Будильник", "будильник", []⟩]),
   ("Ванная",
     [⟨"bathroom", "Санузел", "санузел", ["ванная комната", "собственная ванная комната",
        "туалет"]⟩,
      ⟨"shower", "Ванна или душ", "ванна или душевая кабина", ["душевая кабина", "душ", "ванна",
        "ванна или душ", "душевая"]⟩,
      ⟨"sink", "Раковина", "раковина", []⟩,
      ⟨"towels", "Полотенца", "полотенца", ["банные полотенца", "набор полотенец"]⟩,
      ⟨"bathrobes", "Халаты", "халаты", ["халат", "банный халат", "банные халаты"]⟩,
      ⟨"slippers", "Тапочки", "тапочки", ["тапки"]⟩,
      ⟨"toiletries", "Гигиенические принадлежности", "гигиенические принадлежности", [
        "косметические принадлежности", "туалетные принадлежности", "средства гигиены",
        "гигиенические средства", "туалетно-косметические принадлежности"]⟩]),
   ("Прочее",
     [⟨"teaSet", "Чайный набор", "чайный набор", ["принадлежности для чая и кофе", "набор для чая",
        "чайная станция", "чай/кофе"]⟩,
      ⟨"water", "Питьевая вода", "бутилированная вода", ["питьевая вода", "вода"]⟩,
      ⟨"linen", "Постельное бельё", "постельное бельё", []⟩,
      ⟨"blackout", "Шторы блэкаут", "шторы блэкаут", ["шторы black-out", "шторы blackout",
        "шторы блэк-аут", "светонепроницаемые шторы"]⟩,
      ⟨"lamps", "Светильники", "светильники", ["светильник", "настольные лампы",
        "настольная лампа"]⟩,
      ⟨"glassware", "Посуда", "посуда", ["стаканы", "стакан", "набор посуды", "чашки"]⟩,
      ⟨"carpet", "Ковровое покрытие", "ковровое покрытие", []⟩,
      ⟨"pillows", "Подушки и одеяла", "подушки и одеяла", ["подушки", "одеяла", "подушка",
        "одеяло"]⟩,
      ⟨"mosquitoNet", "Москитная сетка", "москитная сетка", []⟩,
      ⟨"balcony", "Балкон", "балкон", []⟩])]

def ROOM_ITEMS : List AboutItem := ROOM_GROUPS.flatMap (·.2)

inductive ListSection where
  | infrastructure
  | facility
  | rooms
  deriving DecidableEq, Repr

def DICTIONARIES : ListSection → List AboutItem
  | .infrastructure => INFRASTRUCTURE_ITEMS
  | .facility => FACILITY_ITEMS
  | .rooms => ROOM_ITEMS

inductive AboutSection where
  | name
  | location
  | list (s : ListSection)
  | laundry
  | other
  deriving DecidableEq, Repr

/-- The label a section is written with. -/
def ABOUT_LABELS : AboutSection → String
  | .name => "Название гостиницы"
  | .location => "Локация"
  | .list .infrastructure => "Инфраструктура"
  | .list .facility => "Оснащение объекта"
  | .list .rooms => "Оснащение номерного фонда"
  | .laundry => "Услуги прачечной/глажки"
  | .other => "Прочее"

def LABEL_ALIASES : List (String × AboutSection) :=
  [("название гостиницы", .name), ("название объекта", .name), ("название", .name),
   ("гостиница", .name), ("локация", .location), ("расположение", .location), ("адрес", .location),
   ("инфраструктура", .list .infrastructure), ("оснащение объекта", .list .facility),
   ("оснащение гостиницы", .list .facility), ("оснащение номерного фонда", .list .rooms),
   ("оснащение номеров", .list .rooms), ("оснащение номероы", .list .rooms),
   ("услуги прачечной/глажки", .laundry), ("услуги прачечной/стирки", .laundry),
   ("услуги прачечной", .laundry), ("услуги прачечной и глажки", .laundry), ("прочее", .other)]

/-- Labels that are no keys of the aliases, but of every object: the lower-case ones. -/
def INHERITED_KEYS : List String := ["constructor", "__proto__"]

/-- What a phrase sets. -/
structure LaundryFlags where
  laundry : Option Bool
  ironing : Option Bool
  deriving DecidableEq, Repr

def LAUNDRY_ON : LaundryFlags := ⟨some true, none⟩
def IRONING_ON : LaundryFlags := ⟨none, some true⟩
def BOTH_ON : LaundryFlags := ⟨some true, some true⟩
def BOTH_OFF : LaundryFlags := ⟨some false, some false⟩

def LAUNDRY_PHRASES : List (List String × LaundryFlags) :=
  [(["есть прачечная", "на территории гостиницы есть прачечная", "на территории есть прачечная",
      "прачечная есть", "прачечная имеется", "имеется прачечная", "прачечная",
      "прачечная на территории", "услуги прачечной", "стирка", "стирка и сушка белья и одежды",
      "предоставляются услуги прачечной", "услуги прачечной предоставляются",
      "услуги прачечной имеются"], LAUNDRY_ON),
   (["есть услуги глажки", "так же предоставляют услуги глажки",
      "также предоставляют услуги глажки", "предоставляют услуги глажки", "услуги глажки", "глажка",
      "глажение", "глажка на территории", "гладильная на территории", "гладильная на этаже",
      "гладильная комната", "имеется гладильная комната", "так же предоставляются услуги глажки",
      "также предоставляются услуги глажки", "гладильные услуги", "глажка есть",
      "предоставляется утюг и гладильная доска"], IRONING_ON),
   (["предоставляются", "есть", "имеются", "предоставляют услуги прачечной и глажки",
      "есть прачечная и глажка", "прачечная и глажка", "услуги прачечной и глажки предоставляются",
      "предоставляются услуги прачечной и глажки", "услуги прачечной и глажки"], BOTH_ON),
   (["нет", "отсутствуют", "отсутствует", "не предоставляются", "услуги не предоставляются",
      "не оказываются", "не предоставляют"], BOTH_OFF)]

/-! ## Phrases -/

def isQuote (u : UInt16) : Bool :=
  [0xAB, 0xBB, 0x22, 0x201C, 0x201D, 0x201E].contains u

/-- What may stand before a phrase: `[\s\-–—•·*]`. -/
def isBullet (u : UInt16) : Bool :=
  isSpace u || [0x2D, 0x2013, 0x2014, 0x2022, 0xB7, 0x2A].contains u

/-- What may stand after a phrase: `[\s.;:!]`. -/
def isClosing (u : UInt16) : Bool := isSpace u || [0x2E, 0x3B, 0x3A, 0x21].contains u

/-- `toLowerCase` of a unit, where the result has a Russian or a Latin letter. -/
def lowerUnit (u : UInt16) : JsString :=
  if 0x41 ≤ u.toNat ∧ u.toNat ≤ 0x5A ∨ 0x410 ≤ u.toNat ∧ u.toNat ≤ 0x42F then [u + 32]
  else if u = 0x401 then [0x451]
  else if u = 0x212A then [0x6B]
  else if u = 0x130 then [0x69, 0x307]
  else [u]

/-- `replace(/\s+/g, ' ')`, after white space or not. -/
def squeezeFrom : Bool → JsString → JsString
  | _, [] => []
  | afterSpace, u :: s =>
    if isSpace u then
      if afterSpace then squeezeFrom true s else space :: squeezeFrom true s
    else u :: squeezeFrom false s

def normalizePhrase (text : JsString) : JsString :=
  let lower := (text.flatMap lowerUnit).map fun u => if u = 0x451 then 0x435 else u
  let squeezed := squeezeFrom false (lower.filter fun u => !isQuote u)
  trim ((squeezed.dropWhile isBullet).rdropWhile isClosing)

def slash : UInt16 := 0x2F

/-- `replace(/\s*\/\s*/g, '/')`: `ws` is the white space just read, which a slash takes off. -/
def slashesFrom (ws : JsString) (afterSlash : Bool) : JsString → JsString
  | [] => ws
  | u :: s =>
    if u = slash then slash :: slashesFrom [] true s
    else if isSpace u then
      if afterSlash then slashesFrom [] true s else slashesFrom (ws ++ [u]) false s
    else ws ++ u :: slashesFrom [] false s

def normalizeLabel (text : JsString) : JsString := slashesFrom [] false (normalizePhrase text)

/-- `buildMatcher` and `get`: the key of the first item with the phrase. -/
def matchPhrase (items : List AboutItem) (phrase : JsString) : Option String :=
  let byPhrase := items.flatMap fun i =>
    (i.label :: i.text :: i.synonyms).map fun p => (normalizePhrase (literal p), i.key)
  ((byPhrase.filter fun p => !p.1.isEmpty).find? fun p => p.1 == phrase).map (·.2)

def matchLaundry (phrase : JsString) : Option LaundryFlags :=
  (LAUNDRY_PHRASES.find? fun p => p.1.any fun q => literal q == phrase).map (·.2)

/-- What `LABEL_ALIASES[label]` is. -/
inductive LabelValue where
  | undefined
  | section_ (s : AboutSection)
  | inherited
  deriving DecidableEq, Repr

def labelValue (label : JsString) : LabelValue :=
  match LABEL_ALIASES.find? fun a => literal a.1 == label with
  | some a => .section_ a.2
  | none => if INHERITED_KEYS.any fun k => literal k == label then .inherited else .undefined

/-! ## Values -/

/-- A piece of a value with its own separator. -/
structure Token where
  text : JsString
  sep : JsString
  deriving DecidableEq, Repr

def stop : UInt16 := 0x2E

/-- A comma or a semicolon. -/
def isComma (u : UInt16) : Bool := u == 0x2C || u == 0x3B

/-- `\.\s+|\n+` at the start of a text. -/
def stopAt : JsString → Option JsString
  | [] => none
  | u :: s =>
    if u = stop ∧ s.takeWhile isSpace ≠ [] then some (stop :: s.takeWhile isSpace)
    else if u = newline then some ((u :: s).takeWhile (· == newline))
    else none

/-- `\s*[,;]\s*|\.\s+|\n+` at the start of a text. -/
def separatorAt (s : JsString) : Option JsString :=
  match s.dropWhile isSpace with
  | u :: r =>
    if isComma u then some (s.takeWhile isSpace ++ u :: r.takeWhile isSpace) else stopAt s
  | [] => stopAt s

/-- The pieces of `acc ++ s`, where no separator starts in `acc`. `fuel` is more than
`s` is long. -/
def tokenizeFrom : ℕ → JsString → JsString → List Token
  | 0, acc, s => [⟨acc ++ s, []⟩]
  | fuel + 1, acc, s =>
    match separatorAt s with
    | some sep => ⟨acc, sep⟩ :: tokenizeFrom fuel [] (s.drop sep.length)
    | none =>
      match s with
      | [] => [⟨acc, []⟩]
      | u :: r => tokenizeFrom fuel (acc ++ [u]) r

def tokenize (text : JsString) : List Token := tokenizeFrom (text.length + 1) [] text

def Token.all (t : Token) : JsString := t.text ++ t.sep

/-- `[\s,;.]`. -/
def isEdge (u : UInt16) : Bool := isSpace u || isComma u || u == stop

/-- `[\s,;]`. -/
def isTail (u : UInt16) : Bool := isSpace u || isComma u

def joinLeftover (tokens : List Token) : JsString :=
  trim (strip isEdge isTail (tokens.flatMap Token.all))

/-- The pieces that stay: not eaten by the dictionary, and not blank. -/
def leftover {α : Type} (eaten : JsString → Option α) (tokens : List Token) : List Token :=
  tokens.filter fun t => (eaten (normalizePhrase t.text)).isNone && !(trim t.text).isEmpty

/-- What the dictionary knows of a value, and the rest of it. -/
def readValue {α : Type} (eaten : JsString → Option α) (value : JsString) : List α × JsString :=
  ((tokenize value).filterMap fun t => eaten (normalizePhrase t.text),
    joinLeftover (leftover eaten (tokenize value)))

def readList (s : ListSection) (value : JsString) : List String × JsString :=
  readValue (matchPhrase (DICTIONARIES s)) value

def readLaundry (value : JsString) : List LaundryFlags × JsString := readValue matchLaundry value

/-! ## The state of the editor -/

structure SectionState where
  checked : List String
  extra : JsString
  deriving DecidableEq, Repr

structure LaundryState where
  laundry : Bool
  ironing : Bool
  extra : JsString
  deriving DecidableEq, Repr

structure HotelAbout where
  infrastructure : SectionState
  facility : SectionState
  rooms : SectionState
  laundry : LaundryState
  other : JsString
  deriving DecidableEq, Repr

def emptyHotelAbout : HotelAbout := ⟨⟨[], []⟩, ⟨[], []⟩, ⟨[], []⟩, ⟨false, false, []⟩, []⟩

def HotelAbout.list (about : HotelAbout) : ListSection → SectionState
  | .infrastructure => about.infrastructure
  | .facility => about.facility
  | .rooms => about.rooms

/-- `Object.assign`. -/
def LaundryState.assign (l : LaundryState) (f : LaundryFlags) : LaundryState :=
  { l with laundry := f.laundry.getD l.laundry, ironing := f.ironing.getD l.ironing }

/-- `toUpperCase` of one unit: of what is no separator it is none and not empty, and its first unit
is in upper case. -/
structure UpperCase where
  unit : UInt16 → JsString
  visible : ∀ u, isEdge u = false → unit u ≠ [] ∧ ∀ v ∈ unit u, isEdge v = false
  upper : ∀ u v s, unit u = v :: s → unit v = [v]

def capitalize (up : UpperCase) : JsString → JsString
  | [] => []
  | u :: s => up.unit u ++ s

/-! ## Parsing -/

inductive AboutLine where
  | free
  | skipped
  | list (s : ListSection) (value : JsString)
  | laundry (value : JsString)
  | other (value : JsString)
  | inherited
  deriving DecidableEq, Repr

def colon : UInt16 := 0x3A

/-- `LABEL_RE`: the text before the first colon, and what comes after it. -/
def labelled (line : JsString) : Option (JsString × JsString) :=
  let label := line.takeWhile (· != colon)
  match line.dropWhile (· != colon) with
  | [] => none
  | _ :: rest =>
    if 2 ≤ label.length ∧ label.length ≤ 60 ∧ rest.all fun u => !isLineEnd u then
      some (label, rest.dropWhile fun u => u == space || u == tab)
    else none

def readLine (line : JsString) : AboutLine :=
  match labelled line with
  | none => .free
  | some (label, rest) =>
    match labelValue (normalizeLabel label) with
    | .undefined => .free
    | v =>
      let value := trim rest
      if value.isEmpty then .skipped
      else match v with
        | .section_ .name | .section_ .location => .skipped
        | .section_ .other => .other value
        | .section_ .laundry => .laundry value
        | .section_ (.list s) => .list s value
        | _ => .inherited

/-- The lines of a text as they are read. -/
def aboutLines (text : JsString) : List JsString :=
  (lines (unixLines text)).map fun raw =>
    trim (raw.map fun u => if u = noBreakSpace then space else u)

/-- What has been read so far. -/
structure AboutReading where
  found : ListSection → List String
  extras : ListSection → List JsString
  laundry : LaundryState
  laundryExtras : List JsString
  otherLines : List JsString

def AboutReading.empty : AboutReading :=
  ⟨fun _ => [], fun _ => [], ⟨false, false, []⟩, [], []⟩

/-- A nonempty text at the end. -/
def pushNonempty (l : List JsString) (x : JsString) : List JsString :=
  if x.isEmpty then l else l ++ [x]

def matcherUndefined : Failure :=
  .internal "Cannot read properties of undefined (reading 'get')"

def AboutReading.take (r : AboutReading) (line : JsString) : Except Failure AboutReading :=
  match readLine line with
  | .free => .ok { r with otherLines := r.otherLines ++ [line] }
  | .skipped => .ok r
  | .other value => .ok { r with otherLines := r.otherLines ++ [value] }
  | .laundry value =>
    .ok { r with
      laundry := (readLaundry value).1.foldl LaundryState.assign r.laundry
      laundryExtras := pushNonempty r.laundryExtras (readLaundry value).2 }
  | .list s value =>
    .ok { r with
      found := Function.update r.found s (r.found s ++ (readList s value).1)
      extras := Function.update r.extras s (pushNonempty (r.extras s) (readList s value).2) }
  | .inherited => .error matcherUndefined

def sentenceJoin : JsString := literal ". "

def listJoin : JsString := literal ", "

/-- The lines word for word, with one empty line at most between two of them. -/
def tidyOther (ls : List JsString) : JsString :=
  trim (collapseLines (unlines (ls.map (List.rdropWhile fun u => u == space || u == tab))))

section Parse

variable (up : UpperCase)

/-- The remarks on a section as one text: sentences on the infrastructure, a list otherwise. -/
def joinExtras (s : ListSection) (extras : List JsString) : JsString :=
  match s with
  | .infrastructure => capitalize up (sentenceJoin.intercalate extras)
  | _ => listJoin.intercalate extras

def AboutReading.section_ (r : AboutReading) (s : ListSection) : SectionState where
  checked := ((DICTIONARIES s).filter fun i => (r.found s).contains i.key).map (·.key)
  extra := joinExtras up s (r.extras s)

def AboutReading.state (r : AboutReading) : HotelAbout where
  infrastructure := r.section_ up .infrastructure
  facility := r.section_ up .facility
  rooms := r.section_ up .rooms
  laundry := { r.laundry with extra := capitalize up (sentenceJoin.intercalate r.laundryExtras) }
  other := tidyOther r.otherLines

def parseHotelAbout (text : JsString) : Except Failure HotelAbout :=
  if (trim text).isEmpty then .ok emptyHotelAbout
  else ((aboutLines text).foldlM AboutReading.take .empty).map (AboutReading.state up)

end Parse

/-! ## Building -/

/-- `replace(/\s*\n+\s*/g, ' ')`: `ws` is the white space just read. -/
def oneLineFrom (ws : JsString) : JsString → JsString
  | [] => if ws.contains newline then [space] else ws
  | u :: s =>
    if isSpace u then oneLineFrom (ws ++ [u]) s
    else (if ws.contains newline then [space] else ws) ++ u :: oneLineFrom [] s

def oneLine (value : JsString) : JsString := trim (oneLineFrom [] value)

section Build

variable (up : UpperCase)

def listText (s : ListSection) (state : SectionState) : JsString :=
  let head := listJoin.intercalate
    (((DICTIONARIES s).filter fun i => state.checked.contains i.key).map fun i => literal i.text)
  let extra := oneLine state.extra
  let sentenceExtra := decide (s = .infrastructure)
  if extra.isEmpty then head
  else if head.isEmpty then if sentenceExtra then capitalize up extra else extra
  else if sentenceExtra then head ++ sentenceJoin ++ capitalize up extra
  else head ++ listJoin ++ extra

def laundryText (laundry : LaundryState) : JsString :=
  let head := listJoin.intercalate
    ((if laundry.laundry then [literal "есть прачечная"] else []) ++
      if laundry.ironing then [literal "есть услуги глажки"] else [])
  let extra := capitalize up (oneLine laundry.extra)
  if extra.isEmpty then head
  else if head.isEmpty then extra
  else head ++ sentenceJoin ++ extra

/-- A line of a label and a value. -/
def aboutRow (s : AboutSection) (value : JsString) : JsString :=
  literal (ABOUT_LABELS s) ++ colon :: space :: value

/-- The lines of the sections that have a value. -/
def aboutRows (about : HotelAbout) (name location : JsString) : List JsString :=
  let rows : List (AboutSection × JsString) :=
    [(.name, oneLine name), (.location, oneLine location),
     (.list .infrastructure, listText up .infrastructure about.infrastructure),
     (.list .facility, listText up .facility about.facility),
     (.list .rooms, listText up .rooms about.rooms), (.laundry, laundryText up about.laundry)]
  (rows.filter fun r => !r.2.isEmpty).map fun r => aboutRow r.1 r.2

def buildHotelAboutText (about : HotelAbout) (name location : JsString) : JsString :=
  let head := unlines (aboutRows up about name location)
  let other := tidyOther (lines about.other)
  [newline, newline].intercalate ([head, other].filter fun s => !s.isEmpty)

end Build

end KarsHotel
