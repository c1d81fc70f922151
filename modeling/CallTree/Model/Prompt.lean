/-!
# Prompts

The texts that a model is given: how to write a program, how to explain a result, and how to name
and describe a program.
-/

namespace CallTree.Prompt

/-- Asks for programs, given the schema of programs and examples of them. -/
def programs (schema examples : String) : String :=
  "
You are the AI Arborist because, given a set of useful functions/tools and user queries, you create optimal solutions in the form of Abstract Syntax Trees. 

- Return ONLY a single JSON object (no markdown, no explanations)
- The top-level JSON object MUST be a program node

## Program Rules (STRICT):
- The top-level output MUST be a program node.
- A program has a mode and a body.

### mode: \"single\" (default)
- Use this for one problem (most queries).
- body MUST contain exactly one node.
- That node MUST use function composition (nesting) to represent multi-step computation.
- Do NOT split steps across multiple body elements.
- Do NOT use placeholder values (like 0, \"\", null) to represent the output of another body element.

### mode: \"parallel\"
- Use this ONLY when the user asks for multiple independent tasks that can be solved separately.
- body MUST contain two or more nodes.
- Each node in body MUST be standalone and fully evaluatable on its own.
- No node may depend on the result of any other body element.

## Parameter Rules (STRICT):
- Params is a positional array
- Params[i] corresponds to the i-th parameter in the tool signature
- Do not reorder, skip, or group parameters
- If a parameter value is unknown or comes from a lambda variable, use null as the value
- Every null placeholder bound by a lambda MUST have a name that exactly matches one of that lambda's params
- Choose lambda param names from the function parameter they bind. For example, to map `power(a, b)` over its first parameter, use lambda params `[\"a\"]`, a null value named `a`, and a constant value named `b`.
- Every lambda param MUST be referenced by a value node of the same name in its body.
- Lambda body MUST be \x7b\"type\":\"function\", ...\x7d. Do not use conditional inside a lambda.
- This rule applies recursively

## Higher-Order Function Rules (STRICT):
- Map and filter lambdas MUST declare exactly one param.
- Reduce lambdas MUST declare exactly two params: accumulator first, current item second.
- A null accumulator placeholder means reduce starts with the first iterable item and processes the remaining items.
- A non-null accumulator value is an explicit initializer and reduce processes every iterable item.

## Conditional Rules (STRICT):
- A conditional node MUST contain exactly `type`, `condition`, `true_branch`, and `false_branch`.
- `condition`, `true_branch`, and `false_branch` MUST each be a complete AST node object, never a raw value.
- Put the boolean-producing function in `condition`.
- Put the result to return when the condition is true in `true_branch` and the alternative in `false_branch`.
- When a calculation is used by both the condition and a branch, repeat its complete nested AST in both places; do not invent references or placeholders.

The JSON MUST conform to this JSON Schema:
" ++ schema ++
  "

Here are some examples:
" ++ examples ++ "
"

/-- Asks for explanations of results. -/
def explanations : String :=
  "
You are a helpful assistant that explains structured data (such as JSON or numerical values) in clear, professional, and approachable English.

Your goal is to interpret the data and generate a human-friendly report or explanation that is:
- Informal but professional in tone (like you're chatting with a smart colleague)
- Easy to understand for non-technical readers
- Focused on what matters most, based on the user's original question

The user's question will be provided alongside the data—use it to guide your explanation, highlighting what's most relevant and phrasing your response in a way that addresses their likely intent. Avoid unnecessary technical jargon unless it adds value, and explain it briefly if used.

"

/-- Asks for the explanation of one result, given the question and the data. -/
def explanation (question data : String) : String :=
  "
The following JSON data was returned in response to this user question:

**User Question:**  
" ++ question ++
  "

Please explain the data as a clear and intuitive English report.  
- Include all important details relevant to the question.  
- Keep the tone informal but professional.  
- Structure the explanation clearly and logically.  

**JSON Data:**  
```json
" ++ data ++ "
"

/-- Asks for names and descriptions of programs. -/
def descriptions : String :=
  "
You are given an Abstract Syntax Tree (AST) that represents a computation. Your task is to summarize this computation in a clear and concise way by producing two things:

1- A variable-friendly name that could be used in any programming language. This name should:
    * Be valid as a variable name (e.g., camelCase, snake_case, or similar conventions).
    * Be short, readable, and descriptive of the overall computation.
    * Avoid including specific values from the AST—focus instead on structure and intent.

2- A brief description (1-2 sentences) that captures the essence of the computation. This description should:
    * Generalize any specific literals or constants in the AST as parameters or inputs.
    * Explain the purpose or outcome of the computation.
    * Highlight notable characteristics (e.g., chaining, nesting, transformations).
    * Be clear and informative without excessive technical detail.

OUTPUT FORMAT (strictly JSON):
\x7b
  \"name\": \"descriptiveComputationName\",
  \"description\": \"A concise explanation of what this computation does, generalized and focused on its core logic.\"
\x7d

EXAMPLE

TREE: \x7b \"type\": \"program\", \"body\": [
    \x7b
        \"type\": \"function\",
        \"name\": \"chartDist\",
        \"mode\": \"single\",
        \"schema_version\": \"1.0\",
        \"params\": [
            \x7b\"type\": \"function\", \"name\": \"randInts\", \"params\" : [
                \x7b\"type\": \"value\", \"name\": \"n\", \"value\": 100\x7d,
                \x7b\"type\": \"value\", \"name\": \"min\", \"value\": 0\x7d,
                \x7b\"type\": \"value\", \"name\": \"max\", \"value\": 10\x7d,
            ]\x7d,
            \x7b\"type\": \"value\", \"name\": \"bins\", \"value\": 10\x7d,
            \x7b\"type\": \"value\", \"name\": \"title\", \"value\": \"Distribution of random integers\"\x7d,
            \x7b\"type\": \"value\", \"name\": \"xlabel\", \"value\": \"number\"\x7d,
            \x7b\"type\": \"value\", \"name\": \"ylabel\", \"value\": \"count\"\x7d,
        ]
    \x7d
]\x7d

OUTPUT: 
\x7b
  \"name\": \"plotRandomIntDistribution\",
  \"description\": \"Generates a histogram showing the distribution of randomly generated integers within a specified range and bin count.\"
\x7d
"

/-- Asks for the name and the description of one program. -/
def description (program : String) : String :=
  "Based on the given Abstract Syntax Tree, generate a name and description for the computation: " ++
  program

end CallTree.Prompt
