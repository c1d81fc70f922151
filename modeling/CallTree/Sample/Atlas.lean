import CallTree.Text.Case
import CallTree.Tool.Builtin
import CallTree.Value.Arithmetic

/-!
# The atlas tools

Twenty small tools with fixed facts about a few countries and cities, and some arithmetic. They
make benchmarks repeatable: a program that uses them gives the same answer everywhere.

Names of countries, cities, products and books are compared without regard to letter case.
-/

namespace CallTree.Sample

open CallTree.Decimal

/-- The text of a name in lower case; bytes have one too, but it equals no name. -/
def lowered : Value → Except Fault String
  | .str s => .ok (Text.lower s)
  | .bytes _ => .ok "\x00"
  | _ => .error .noSuchOperation

/-- The text of a code in upper case; bytes have one too, but it equals no code. -/
def uppered : Value → Except Fault String
  | .str s => .ok (Text.upper s)
  | .bytes _ => .ok "\x00"
  | _ => .error .noSuchOperation

/-- Looks up facts by name. -/
def fact (facts : List (String × Value)) (unknown : Value) : List Value → Except Fault Value
  | [name] => do return (facts.lookup (← lowered name)).getD unknown
  | _ => .error .wrongKind

/-- A tool that looks up facts by the name given as its parameter. -/
def factTool (name parameter : String) (description : Option String)
    (facts : List (String × Value)) (unknown : Value) : Builtin :=
  ⟨name, [parameter], description, fact facts unknown⟩

/-- A list of doubles. -/
def floats (xs : List Float) : Value := .list (xs.map .float)

/-- The largest cities of a country, in order. -/
def largestCities : List (String × List String) := [
  ("france", ["Paris", "Marseille", "Lyon"]),
  ("japan", ["Tokyo", "Yokohama", "Osaka"]),
  ("brazil", ["São Paulo", "Rio de Janeiro", "Salvador"]),
  ("australia", ["Sydney", "Melbourne", "Brisbane"])]

/-- The city of a rank, counted from one. -/
def cityOfRank (cities : List String) (rank : Int) : Value :=
  if 1 ≤ rank ∧ rank ≤ cities.length then .text? cities[(rank - 1).toNat]?
  else .str "Ranking out of range"

/-- The exchange rates from one currency. -/
def dollarRates : List (String × Float) := [
  ("EUR", 0.85), ("JPY", 110.0), ("BRL", 5.2), ("AUD", 1.4)]

/-- The rate from one currency to another. -/
def exchangeRate : List Value → Except Fault Value
  | [source, target] => do
    let source ← uppered source
    let target ← uppered target
    let rate? := if source = "USD" then dollarRates.lookup target else none
    return rate?.elim (.str "Exchange rate not available") .float
  | _ => .error .wrongKind

/-- The mean of numbers to two places, zero for nothing. -/
def averageOf : List Value → Except Fault Value
  | [data] =>
    if data.truthy then (Value.mean data).map fun x ↦ .float (roundTo 2 x) else .ok (.int 0)
  | _ => .error .wrongKind

/-- An amount in billions for each head of a population, to two places. -/
def perCapita : List Value → Except Fault Value
  | [total, population] => do
    let total ← total.toFloat
    let population ← population.toFloat
    if population == 0.0 then return .int 0
    else return .float (roundTo 2 (total * 1000000000.0 / population))
  | _ => .error .wrongKind

/-- An operation on two values taken as doubles. -/
def onFloats (f : Float → Float → Value) : List Value → Except Fault Value
  | [a, b] => do
    let a ← a.toFloat
    let b ← b.toFloat
    return f a b
  | _ => .error .wrongKind

/-- The tools, in the order in which they are listed. -/
def atlas : List Builtin := [
  factTool "get_top_producer" "product" (some "Get the top producer of a given product.")
    [("coffee", .str "Brazil"), ("cars", .str "China"), ("electronics", .str "USA"),
      ("wheat", .str "Russia")] (.str "Unknown"),
  factTool "get_capital_city" "country" none
    [("france", .str "Paris"), ("japan", .str "Tokyo"), ("brazil", .str "Brasília"),
      ("australia", .str "Canberra")] (.str "Unknown"),
  factTool "get_weather" "city" (some "Get the current weather for a given city.")
    [("paris", .str "Sunny, 25°C"), ("tokyo", .str "Cloudy, 22°C"),
      ("brasília", .str "Rainy, 28°C"), ("canberra", .str "Windy, 20°C")]
    (.str "Data not available"),
  factTool "get_largest_city" "country" (some "Get the largest city in a given country.")
    [("france", .str "Paris"), ("japan", .str "Tokyo"), ("brazil", .str "São Paulo"),
      ("australia", .str "Sydney")] (.str "Unknown"),
  ⟨"get_largest_city_by_rank", ["country", "rank"], some
    ("Returns the city name at the given population rank within a country.\n" ++
      "country: string (e.g., \"Australia\"), " ++
      "rank: integer only (1 = largest, 2 = second largest, etc.)"),
    fun
      | [country, rank] => do
        let country ← lowered country
        let rank ← rank.toInt
        return match largestCities.lookup country with
          | some cities => cityOfRank cities rank
          | none => .str "Unknown"
      | _ => .error .wrongKind⟩,
  factTool "get_city_population" "city" (some "Get the population of a given city.")
    [("paris", .int 2148000), ("tokyo", .int 13960000), ("são paulo", .int 12330000),
      ("sydney", .int 5312000), ("brisbane", .int 2514000), ("melbourne", .int 5078000)]
    (.str "Data not available"),
  factTool "get_country_population" "country" (some "Get the population of a given country.")
    [("france", .int 67000000), ("japan", .int 125800000), ("brazil", .int 211000000),
      ("australia", .int 25690000)] (.str "Data not available"),
  ⟨"get_exchange_rate", ["from_currency", "to_currency"], some
    ("Get the exchange rate from one three-letter currency code to another.\n\n" ++
      "Both arguments must be currency codes such as ``USD``, ``EUR``, or ``JPY``.\n" ++
      "Use ``get_country_currency`` first when only a country name is known."),
    exchangeRate⟩,
  factTool "get_country_currency" "country"
    (some "Get the three-letter currency code used in a given country.")
    [("france", .str "EUR"), ("japan", .str "JPY"), ("brazil", .str "BRL"),
      ("australia", .str "AUD")] (.str "Unknown"),
  factTool "get_annual_rainfall" "city"
    (some "Get the list of rainfall measurements covering the past year for a given city.")
    [("brasília", floats [1.2, 1.5, 1.3, 1.4, 1.6, 1.5, 1.3, 1.4, 1.5, 1.6, 1.4, 1.5]),
      ("tokyo", floats [0.8, 0.9, 1.0, 0.7, 0.6, 0.8, 0.9, 1.0, 0.7, 0.6, 0.8, 0.9]),
      ("paris", floats [0.5, 0.6, 0.7, 0.5, 0.4, 0.6, 0.7, 0.5, 0.4, 0.6, 0.7, 0.5]),
      ("sydney", floats [0.9, 1.0, 1.1, 0.9, 0.8, 1.0, 1.1, 0.9, 0.8, 1.0, 1.1, 0.9]),
      ("melbourne", floats [0.7, 0.8, 0.9, 0.7, 0.6, 0.8, 0.9, 0.7, 0.6, 0.8, 0.9, 0.7]),
      ("brisbane", floats [1.0, 1.1, 1.2, 1.0, 0.9, 1.1, 1.2, 1.0, 0.9, 1.1, 1.2, 1.0])]
    (.list []),
  ⟨"average", ["rainfall_data"], some "Calculate the average from a list of rainfall data.",
    averageOf⟩,
  factTool "get_country_by_national_animal" "animal"
    (some "Get the country associated with a given national animal.")
    [("kangaroo", .str "Australia")] (.str "Unknown"),
  factTool "get_gdp" "country" (some "Get the GDP of a given country.")
    [("france", .float 2715.52), ("japan", .float 5154.48), ("brazil", .float 1839.76),
      ("australia", .float 1392.68)] (.str "Data not available"),
  ⟨"calculate_per_capita", ["total", "population"], some
    "Calculate the per capita value given total and population.", perCapita⟩,
  factTool "count_books" "author" (some "Count the number of books written by a given author.")
    [("george orwell", .int 9)] (.int 0),
  factTool "get_author" "book_title" (some "Get the author of a given book title.")
    [("1984", .str "George Orwell"), ("brave new world", .str "Aldous Huxley"),
      ("fahrenheit 451", .str "Ray Bradbury")] (.str "Unknown"),
  ⟨"add", ["x", "y"], some "Add two numbers.", onFloats fun x y ↦ .float (x + y)⟩,
  ⟨"greater_than", ["value", "threshold"], some
    "Check if a value is greater than a given threshold.", onFloats fun x y ↦ .bool (x > y)⟩,
  ⟨"less_than", ["value", "threshold"], some
    "Check if a value is less than a given threshold.", onFloats fun x y ↦ .bool (x < y)⟩,
  factTool "get_all_cities_in_country" "country" (some "Get all cities in a given country.")
    [("france", .texts ["Paris", "Marseille", "Lyon", "Toulouse", "Nice"]),
      ("japan", .texts ["Tokyo", "Yokohama", "Osaka", "Nagoya", "Sapporo"]),
      ("brazil", .texts ["São Paulo", "Rio de Janeiro", "Salvador", "Brasília", "Fortaleza"]),
      ("australia", .texts ["Sydney", "Melbourne", "Brisbane"])] (.list [])]

end CallTree.Sample
