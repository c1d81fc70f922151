import CallTree.Benchmark.Case
import CallTree.Benchmark.Gate

/-!
# Sample datasets

The cases of the standard benchmarks, with the baseline and the tolerances of the offline one.
-/

namespace CallTree.Sample

/-! ## Written programs -/

/-- A leaf. -/
def leaf (name : String) (value : Value) : Value :=
  .record [("type", .str "value"), ("name", .str name), ("value", value)]

/-- A call. -/
def call (tool : String) (params : List Value) : Value :=
  .record [("type", .str "function"), ("name", .str tool), ("params", .list params)]

/-- A program. -/
def program (body : List Value) : Value :=
  .record [("type", .str "program"), ("mode", .str "single"), ("body", .list body)]

/-- A conditional. -/
def choice (test yes no : Value) : Value :=
  .record [("type", .str "conditional"), ("condition", test), ("true_branch", yes),
    ("false_branch", no)]

/-- A list operation. -/
def listStep (kind : String) (params : List String) (body items : Value) : Value :=
  .record [("type", .str kind), ("function", .record [("type", .str "lambda"),
    ("params", .texts params), ("body", body)]), ("iterable", items)]

/-! ## Datasets -/

/-- The cases of the offline benchmark. -/
def offlineCases : List OfflineCase := [
  ⟨⟨"weather-capital-france", "What's the weather like in the capital of France?",
      .str "Sunny, 25°C", ["get_capital_city", "get_weather"]⟩,
    program [call "get_weather" [call "get_capital_city" [leaf "country" (.str "France")]]]⟩,
  ⟨⟨"conditional-gdp-brazil", "If the GDP of Brazil is positive, return its GDP.",
      .float 1839.76, ["conditional"]⟩,
    program [choice
        (call "greater_than"
          [call "get_gdp" [leaf "country" (.str "Brazil")], leaf "threshold" (.int 0)])
        (call "get_gdp" [leaf "country" (.str "Brazil")])
        (leaf "fallback" (.int 0))]⟩,
  ⟨⟨"map-australian-populations",
      "What are the populations of the three largest cities in Australia?",
      .list [.int 5312000, .int 5078000, .int 2514000], ["map", "lambda"]⟩,
    program [listStep "map" ["city"]
        (call "get_city_population" [leaf "city" .null])
        (leaf "cities" (.texts ["Sydney", "Melbourne", "Brisbane"]))]⟩,
  ⟨⟨"reduce-australian-population", "What is the total population of all cities in Australia?",
      .int 12904000, ["reduce", "lambda"]⟩,
    program [listStep "reduce" ["x", "y"]
        (call "add" [leaf "x" .null, leaf "y" .null])
        (listStep "map" ["city"]
          (call "get_city_population" [leaf "city" .null])
          (call "get_all_cities_in_country" [leaf "country" (.str "Australia")]))]⟩]

/-- The dataset of the offline benchmark. -/
def offlineDataset : Dataset OfflineCase := ⟨"1.0", offlineCases⟩

/-- The cases of the live benchmark. -/
def liveCases : List Case := [
  ⟨"weather-capital-france",
    "What's the weather like in the capital of France?",
    .str "Sunny, 25°C", []⟩,
  ⟨"books-by-orwell",
    "How many books has the author of '1984' written?",
    .int 9, []⟩,
  ⟨"largest-city-brazil",
    "What's the population of the largest city in Brazil?",
    .int 12330000, []⟩,
  ⟨"usd-jpy-rate",
    "What's the current exchange rate from USD to the currency used in Japan?",
    .float 110.0, ["get_country_currency", "get_exchange_rate"]⟩,
  ⟨"kangaroo-country-gdp-per-capita",
    "What's the GDP per capita of the country whose national animal is the kangaroo?",
    .float 54210.98, []⟩,
  ⟨"conditional-gdp-brazil",
    "If the GDP of Brazil is negative, give me its GDP per capita otherwise return its GDP.",
    .float 1839.76, ["conditional"]⟩,
  ⟨"coffee-country-capital-rainfall",
    "What's the average annual rainfall in the capital city of the country that produces " ++
      "the most coffee in the world?",
    .float 1.43, []⟩,
  ⟨"map-australian-populations",
    "What are the populations of the three largest cities in Australia?",
    .list [.int 5312000, .int 5078000, .int 2514000], ["map", "lambda"]⟩,
  ⟨"filter-australian-rainfall",
    "What are the cities in Australia with average rainfall less than 1mm?",
    .texts ["Sydney", "Melbourne"], ["filter", "lambda"]⟩,
  ⟨"reduce-australian-population",
    "What is the total population of all cities in Australia?",
    .int 12904000, ["reduce", "lambda"]⟩]

/-- The dataset of the live benchmark. -/
def liveDataset : Dataset Case := ⟨"2.0", liveCases⟩

/-! ## The baseline -/

/-- The report on a case that has passed in no time. -/
def passedReport (c : OfflineCase) : CaseReport Float where
  id := c.id
  question := c.question
  expected := c.expected
  actual := c.expected
  checks := ⟨true, true, true, true, true⟩
  latency := 0.0
  cost := some 0.0
  model := "curated-ast-v1"
  provider := "offline-tools-v1"

/-- The baseline of the offline benchmark: every case has passed. -/
def baseline : RunReport Float where
  version := "1.0"
  duration := 0.0
  model := "curated-ast-v1"
  provider := "offline-tools-v1"
  cases := offlineCases.map passedReport

/-- The tolerances of the offline benchmark. -/
def tolerances : Tolerances Float where
  drop _ := 0.0
  latencyRatio := 0.5
  meanLatencyAbsolute := 25.0
  maxLatencyAbsolute := 50.0
  tokenRatio := some 0.0
  tokenAbsolute := 0
  costRatio := 0.0
  costAbsolute := 0.0

end CallTree.Sample
