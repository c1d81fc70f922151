import CallTree.Reference.Item

/-!
# The public names of the package

What the released package offers under its public names, and how it presents itself: its version,
the version of its tree format, the names it declares public, and the file it was loaded from.
-/

namespace CallTree.Reference

/-- How a package presents itself. -/
structure Package where
  version : String
  schemaVersion : String
  /-- The names declared public. -/
  exports : List String
  /-- The file it was loaded from. -/
  location : String

/-- The method by which trees of all kinds are run. -/
def evaluating : Method where
  name := "eval"
  signature := "(self, provider: treelang.ai.provider.ToolProvider, " ++
    "context: 'ExecutionContext | None' = None) -> Any"

/-- The public names of a package. -/
def publicItems (p : Package) : List Item := [
  { name := "AST", kind := .type, home := "treelang.trees.tree"
    signature := "()"
    about := "Represents an Abstract Syntax Tree (AST) for a very simple programming language."
    methods := [
      ⟨"parse",
        "(cls, ast: Union[Dict[str, Any], List[Dict[str, Any]]]) -> " ++
        "treelang.trees.schemas.v1.TreeNode | list[treelang.trees.schemas.v1.TreeNode]",
        "Parses the given dictionary or list into a TreeNode."⟩,
      ⟨"eval",
        "(cls, ast: treelang.trees.schemas.v1.TreeNode, provider: " ++
        "treelang.ai.provider.ToolProvider) -> Any",
        "Evaluates the given AST."⟩,
      ⟨"visit",
        "(cls, ast: treelang.trees.schemas.v1.TreeNode, op: " ++
        "collections.abc.Callable[[treelang.trees.schemas.v1.TreeNode], None]) -> None",
        "Performs a depth-first visit of the AST and applies the given operation to each node."⟩,
      ⟨"avisit",
        "(cls, ast: treelang.trees.schemas.v1.TreeNode, op: " ++
        "collections.abc.Callable[[treelang.trees.schemas.v1.TreeNode], None]) -> None",
        "Performs an asynchronous depth-first visit of the AST and applies the given " ++
        "operation to each node."⟩,
      ⟨"repr",
        "(cls, ast: treelang.trees.schemas.v1.TreeNode) -> str",
        "Returns a string representation of the AST."⟩,
      ⟨"tool",
        "(ast: treelang.trees.schemas.v1.TreeNode, provider: " ++
        "treelang.ai.provider.ToolProvider) -> collections.abc.Callable[..., typing.Any]",
        "Converts the given AST into a callable function that can be added as a tool."⟩] },
  { name := "ASTCompilationError", kind := .type, home := "treelang.exceptions"
    about := "Raised when an AST cannot be compiled into a callable tool." },
  { name := "ASTExecutionError", kind := .type, home := "treelang.exceptions"
    about := "Raised when a compiled AST fails during execution." },
  { name := "ASTValidationError", kind := .type, home := "treelang.exceptions"
    about := "Raised when an AST violates a runtime tool contract." },
  { name := "CURRENT_SCHEMA_VERSION", kind := .constant, home := "treelang"
    value := some (.str p.schemaVersion) },
  { name := "MCPToolProvider", kind := .type, home := "treelang.ai.provider"
    signature := "(session: mcp.client.session.ClientSession) -> None"
    about := "Tool provider backed by an initialized MCP client session."
    methods := [
      ⟨"call_tool",
        "(self, name: str, arguments: dict[str, typing.Any]) -> treelang.ai.provider.ToolOutput",
        "Invoke a named tool with validated keyword arguments."⟩,
      ⟨"list_tools",
        "(self) -> list[treelang.ai.tool.ToolDefinition]",
        "Return normalized metadata for every available tool."⟩] },
  { name := "NoOpTraceSink", kind := .type, home := "treelang.observability"
    signature := "()"
    about := "Trace sink that intentionally discards every event."
    methods := [
      ⟨"record",
        "(self, event: str, attributes: collections.abc.Mapping[str, typing.Any]) -> None",
        ""⟩] },
  { name := "Observability", kind := .type, home := "treelang.observability"
    signature :=
      "(logger: logging.Logger = <factory>, tracer: treelang.observability.TraceSink = " ++
      "<factory>, allow_content: bool = False) -> None"
    about := "Send the same redacted event to JSON logs and an optional trace sink."
    methods := [
      ⟨"emit", "(self, event: str, **attributes: Any) -> None", ""⟩] },
  { name := "ProviderResponseError", kind := .type, home := "treelang.exceptions"
    about := "Raised when a provider returns an invalid response." },
  { name := "ToolExecutionError", kind := .type, home := "treelang.exceptions"
    about := "Raised when a provider reports that a tool invocation failed." },
  { name := "ToolDefinition", kind := .dictionary, home := "treelang.ai.tool"
    about := "Provider-neutral metadata for one callable tool."
    fields := [
      ("name", "Required[str]"),
      ("properties", "Required[dict[str, treelang.ai.tool.ToolProperty]]"),
      ("description", "NotRequired[str | None]")] },
  { name := "ToolNotFoundError", kind := .type, home := "treelang.exceptions"
    about := "Raised when a provider does not expose a requested tool." },
  { name := "ToolOutput", kind := .type, home := "treelang.ai.provider"
    signature := "(*, content: Any) -> None"
    about := "Provider-neutral value returned by one successful tool invocation."
    fields := [
      ("content", "Any")] },
  { name := "ToolProperty", kind := .dictionary, home := "treelang.ai.tool"
    about := "JSON Schema metadata used for one tool argument."
    fields := [
      ("type", "str"),
      ("description", "str"),
      ("enum", "list[Any]"),
      ("default", "Any")] },
  { name := "ToolProvider", kind := .type, home := "treelang.ai.provider"
    signature := "() -> None"
    about := "Provider-neutral interface for tool discovery and invocation."
    methods := [
      ⟨"get_tool_definition",
        "(self, name: str) -> treelang.ai.tool.ToolDefinition",
        "Return normalized metadata for one named tool."⟩,
      ⟨"call_tool",
        "(self, name: str, arguments: dict[str, typing.Any]) -> treelang.ai.provider.ToolOutput",
        "Invoke a named tool with validated keyword arguments."⟩,
      ⟨"list_tools",
        "(self) -> list[treelang.ai.tool.ToolDefinition]",
        "Return normalized metadata for every available tool."⟩] },
  { name := "TraceSink", kind := .type, home := "treelang.observability"
    signature := "(*args, **kwargs)"
    about := "Vendor-neutral destination for already-redacted trace events."
    methods := [
      ⟨"record",
        "(self, event: str, attributes: collections.abc.Mapping[str, typing.Any]) -> None",
        ""⟩] },
  { name := "TreeConditional", kind := .type, home := "treelang.trees.schemas.v1"
    signature :=
      "(*, type: Literal['conditional'] = 'conditional', condition: Node, true_branch: " ++
      "Node, false_branch: Optional[Node] = None) -> None"
    about := "Represents a conditional statement in the AST."
    fields := [
      ("type", "Literal['conditional']"),
      ("condition", "'Node'"),
      ("true_branch", "'Node'"),
      ("false_branch", "Optional[ForwardRef('Node')]")]
    methods := [
      evaluating] },
  { name := "TreeFilter", kind := .type, home := "treelang.trees.schemas.v1"
    signature :=
      "(*, type: Literal['filter'] = 'filter', function: " ++
      "treelang.trees.schemas.v1.TreeLambda, iterable: Node) -> None"
    about := "Represents a filter operation in the abstract syntax tree (AST)."
    fields := [
      ("type", "Literal['filter']"),
      ("function", "treelang.trees.schemas.v1.TreeLambda"),
      ("iterable", "'Node'")]
    methods := [
      evaluating] },
  { name := "TreeFunction", kind := .type, home := "treelang.trees.schemas.v1"
    signature :=
      "(*, type: Literal['function'] = 'function', name: Annotated[str, " ++
      "MinLen(min_length=1)], params: List[Node]) -> None"
    about := "Represents a function in the abstract syntax tree (AST)."
    fields := [
      ("type", "Literal['function']"),
      ("name", "str"),
      ("params", "List[ForwardRef('Node')]")]
    methods := [
      evaluating] },
  { name := "TreeLambda", kind := .type, home := "treelang.trees.schemas.v1"
    signature :=
      "(*, type: Literal['lambda'] = 'lambda', params: List[str], body: " ++
      "treelang.trees.schemas.v1.TreeFunction) -> None"
    about := "Represents an anonymous (lambda) function."
    fields := [
      ("type", "Literal['lambda']"),
      ("params", "List[str]"),
      ("body", "treelang.trees.schemas.v1.TreeFunction")]
    methods := [
      evaluating] },
  { name := "TreeMap", kind := .type, home := "treelang.trees.schemas.v1"
    signature :=
      "(*, type: Literal['map'] = 'map', function: treelang.trees.schemas.v1.TreeLambda, " ++
      "iterable: Node) -> None"
    about := "Represents a map operation in the abstract syntax tree (AST)."
    fields := [
      ("type", "Literal['map']"),
      ("function", "treelang.trees.schemas.v1.TreeLambda"),
      ("iterable", "'Node'")]
    methods := [
      evaluating] },
  { name := "TreeNode", kind := .type, home := "treelang.trees.schemas.v1"
    signature := "(*, type: Literal['node'] = 'node') -> None"
    about := "Represents a node in the abstract syntax tree (AST)."
    fields := [
      ("type", "Literal['node']")]
    methods := [
      evaluating,
      ⟨"hash", "(self) -> str", ""⟩] },
  { name := "TreeProgram", kind := .type, home := "treelang.trees.schemas.v1"
    signature :=
      "(*, type: Literal['program'] = 'program', body: List[Node], mode: Literal['single', " ++
      "'parallel'], name: Optional[str] = None, description: Optional[str] = None, " ++
      "schema_version: Literal['1.0'] = '1.0') -> None"
    about := "Represents a program in the abstract syntax tree (AST)."
    fields := [
      ("type", "Literal['program']"),
      ("body", "List[ForwardRef('Node')]"),
      ("mode", "Literal['single', 'parallel']"),
      ("name", "Optional[str]"),
      ("description", "Optional[str]"),
      ("schema_version", "Literal['1.0']")]
    methods := [
      evaluating] },
  { name := "TreeReduce", kind := .type, home := "treelang.trees.schemas.v1"
    signature :=
      "(*, type: Literal['reduce'] = 'reduce', function: " ++
      "treelang.trees.schemas.v1.TreeLambda, iterable: Node) -> None"
    about := "Represents a reduce operation in the abstract syntax tree (AST)."
    fields := [
      ("type", "Literal['reduce']"),
      ("function", "treelang.trees.schemas.v1.TreeLambda"),
      ("iterable", "'Node'")]
    methods := [
      evaluating] },
  { name := "TreeValue", kind := .type, home := "treelang.trees.schemas.v1"
    signature :=
      "(*, type: Literal['value'] = 'value', name: Annotated[str, MinLen(min_length=1)], " ++
      "value: JsonValue) -> None"
    about := "Represents a value in the abstract syntax tree (AST)."
    fields := [
      ("type", "Literal['value']"),
      ("name", "str"),
      ("value", "JsonValue")]
    methods := [
      evaluating] },
  { name := "TreelangError", kind := .type, home := "treelang.exceptions"
    about := "Base class for errors raised by Treelang." },
  { name := "__version__", kind := .constant, home := "treelang"
    value := some (.str p.version) },
  { name := "ast_examples", kind := .function, home := "treelang.trees.schemas"
    signature := "() -> str"
    about := "Return examples for the Treelang AST model." },
  { name := "ast_json_schema", kind := .function, home := "treelang.trees.schemas"
    signature := "() -> str"
    about := "Return the JSON schema for the Treelang AST model." }]

/-- The package as it is released. -/
def released : Package where
  version := "0.10.2"
  schemaVersion := "1.0"
  exports := (publicItems ⟨"", "", [], ""⟩).map (·.name)
  location := "treelang/__init__.py"

/-- Names that a package has besides those that it offers. -/
def furtherNames : List String := [
  "PackageNotFoundError", "version", "ai", "exceptions", "observability", "trees", "__all__",
  "__builtins__", "__cached__", "__doc__", "__file__", "__loader__", "__name__", "__package__",
  "__path__", "__spec__"]

/-- Whether a package has a name. -/
def Package.has (p : Package) (name : String) : Bool :=
  furtherNames.contains name || (publicItems p).any (·.name == name)

end CallTree.Reference
