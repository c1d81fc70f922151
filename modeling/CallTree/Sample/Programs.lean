import CallTree.Json.Write
import CallTree.Tree.Form

/-!
# Sample programs

Questions with programs that answer them, as a model is shown them.
-/

namespace CallTree.Sample

/-- A question and a program that answers it. -/
structure Example where
  question : String
  program : Tree

/-- The examples. -/
def examples : List Example := [
  ⟨"Can you calculate (12*6)+4?",
    .program ⟨.single, some "Calculate (12*6)+4",
      some "A simple arithmetic calculation using add and multiply functions."⟩ [
      .call "add" [
        .call "multiply" [
          .value "a" (.int 12),
          .value "b" (.int 6)],
        .value "c" (.int 4)]]⟩,
  ⟨"Chart the distribution of a list of 100 random numbers between 1 and 10.",
    .program ⟨.single, some "Chart Random Number Distribution",
      some "Generates 100 random numbers between 1 and 10 and charts their distribution."⟩ [
      .call "chart_distribution" [
        .call "generate_random_numbers" [
          .value "count" (.int 100),
          .value "min" (.int 1),
          .value "max" (.int 10)],
        .value "bins" (.int 10),
        .value "title" (.str "Random Number Distribution"),
        .value "xlabel" (.str "Number"),
        .value "ylabel" (.str "Frequency")]]⟩,
  ⟨"Calculate 12*6, but if the result is greater than 50, return 50.",
    .program ⟨.single, some "Cap Multiplication Result",
      some "Multiplies two values and caps the result at 50."⟩ [
      .cond
        (.call "greater_than" [
          .call "multiply" [
            .value "a" (.int 12),
            .value "b" (.int 6)],
          .value "b" (.int 50)])
        (.value "result" (.int 50))
        (some (.call "multiply" [
          .value "a" (.int 12),
          .value "b" (.int 6)]))]⟩,
  ⟨"Calculate the resistance of a wire with a length of 5m and cross sectional area 0.01m² with " ++
      "resistivity of copper and aluminum.",
    .program ⟨.single, some "Calculate Wire Resistance for Different Materials",
      some ("Calculates the resistance of a wire made of copper and aluminum given length, " ++
        "area, and resistivity.")⟩ [
      .over .map ["material_resistivity"] "calculate_resistance" [
        .value "length" (.int 5),
        .value "area" (.float 0.01),
        .value "material_resistivity" .null]
        (.value "material_resistivities"
          (.record [("copper", .float 1.68e-08), ("aluminum", .float 2.82e-08)]))]⟩,
  ⟨"Filter out even numbers from a list of numbers from 1 to 10.",
    .program ⟨.single, some "Filter Odd Numbers",
      some "Filters out even numbers from a list of numbers from 1 to 10."⟩ [
      .over .filter ["num"] "is_odd" [
        .value "num" (.int 0)]
        (.value "numbers" (.list ((List.range 10).map fun (n : Nat) ↦ .int (n + 1))))]⟩,
  ⟨"Sum all numbers in a randomly generated list of integers.",
    .program ⟨.single, some "Sum List",
      some "Sums all numbers in a randomly generated list of integers using reduce."⟩ [
      .over .reduce ["acc", "x"] "add" [
        .value "acc" (.int 0),
        .value "x" (.int 0)]
        (.call "generate_random_integers" [
          .value "count" (.int 20),
          .value "min" (.int 1),
          .value "max" (.int 100)])]⟩]

/-- An example as a model is shown it. -/
def Example.text (e : Example) : String :=
  let written := match Json.write ⟨false, false, false⟩ e.program.toValue with
    | .ok s => s
    | .error _ => ""
  "Q:" ++ e.question ++ "\nA:" ++ written

/-- The examples as a model is shown them. -/
def examplesText : String := "\n\n".intercalate (examples.map Example.text)

end CallTree.Sample
