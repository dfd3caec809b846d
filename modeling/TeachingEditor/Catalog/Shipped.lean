import TeachingEditor.Catalog

/-!
# The shipped catalogs

The reserved words of the language, the completion items of its editor and the
answers to common questions, for use where a configuration names no files of its
own.  The order of the items and entries is the order in which equally good ones
are offered.
-/

namespace TeachingEditor
namespace Shipped

/-- Lines of text with line breaks between them. -/
def joinLines : List String → Text
  | [] => []
  | [line] => line.toList
  | line :: rest => line.toList ++ '\n' :: joinLines rest

/-- The reserved words. -/
def vocabulary : Vocabulary :=
  .ofLists
    ((["var", "fun", "if", "else", "while", "for", "return", "true", "false", "nil",
      "and", "or", "not"]).map String.toList)
    ((["write", "scan", "clock"]).map String.toList)

/-- An item of the completion catalog; the inserted text is given by its lines. -/
def item (kind : CompletionKind) (label : String) (insertText : List String)
    (detail description : String) : CompletionItem :=
  { label := label.toList
    insertText := joinLines insertText
    detail := detail.toList
    kind
    description := some description.toList }

/-- The completion items. -/
def completions : List CompletionItem :=
  [
    item .keyword "var" ["var "]
      "Variable declaration"
      "Declare a variable: var name = value;",
    item .keyword "fun" ["fun "]
      "Function declaration"
      "Define a function: fun name(params) \x7b ... \x7d",
    item .keyword "if" [
        "if () \x7b",
        "\t",
        "\x7d"]
      "Conditional statement"
      "Execute code conditionally",
    item .keyword "else" [
        "else \x7b",
        "\t",
        "\x7d"]
      "Else clause"
      "Alternative execution path",
    item .keyword "while" [
        "while () \x7b",
        "\t",
        "\x7d"]
      "While loop"
      "Repeat code while condition is true",
    item .keyword "for" [
        "for (var i = 0; i < 10; i = i + 1) \x7b",
        "\t",
        "\x7d"]
      "For loop"
      "Traditional for loop with initialization, condition, and increment",
    item .keyword "return" ["return "]
      "Return statement"
      "Return a value from a function",
    item .keyword "true" ["true"]
      "Boolean true"
      "Boolean true value",
    item .keyword "false" ["false"]
      "Boolean false"
      "Boolean false value",
    item .keyword "nil" ["nil"]
      "Null value"
      "Represents null or no value",
    item .operator "and" ["and"]
      "Logical AND"
      "Logical AND operator",
    item .operator "or" ["or"]
      "Logical OR"
      "Logical OR operator",
    item .operator "not" ["not "]
      "Logical NOT"
      "Logical NOT operator",
    item .function "write" ["write();"]
      "Output function"
      "Print output to console: write(value);",
    item .function "scan" ["scan();"]
      "Input function (broken)"
      "⚠️ Currently broken - do not use",
    item .function "clock" ["clock()"]
      "Get current time"
      "Returns current timestamp in milliseconds",
    item .snippet "function" [
        "fun functionName(param1, param2) \x7b",
        "\t// Function body",
        "\treturn result;",
        "\x7d"]
      "Function template"
      "Complete function declaration template",
    item .snippet "if-else" [
        "if (condition) \x7b",
        "\t// True branch",
        "\x7d else \x7b",
        "\t// False branch",
        "\x7d"]
      "If-else statement"
      "Complete if-else structure",
    item .snippet "while-loop" [
        "while (condition) \x7b",
        "\t// Loop body",
        "\x7d"]
      "While loop template"
      "While loop structure",
    item .snippet "for-loop" [
        "for (var i = 0; i < limit; i = i + 1) \x7b",
        "\t// Loop body",
        "\twrite(i);",
        "\x7d"]
      "For loop template"
      "Complete for loop structure",
    item .snippet "recursive-function" [
        "fun factorial(n) \x7b",
        "\tif (n == 0) \x7b",
        "\t\treturn 1;",
        "\t\x7d",
        "\treturn n * factorial(n - 1);",
        "\x7d",
        "",
        "// Call: factorial(5);"]
      "Recursive function example"
      "Factorial example with recursion",
    item .snippet "fibonacci" [
        "fun fibonacci(n) \x7b",
        "\tif (n <= 1) \x7b",
        "\t\treturn n;",
        "\t\x7d",
        "\treturn fibonacci(n - 1) + fibonacci(n - 2);",
        "\x7d",
        "",
        "// Call: fibonacci(10);"]
      "Fibonacci function"
      "Fibonacci sequence using recursion",
    item .snippet "countdown" [
        "fun countdown(n) \x7b",
        "\tif (n == 0) \x7b",
        "\t\treturn;",
        "\t\x7d",
        "\twrite(n);",
        "\tcountdown(n - 1);",
        "\x7d",
        "",
        "// Call: countdown(10);"]
      "Countdown function"
      "Recursive countdown example",
    item .snippet "sum-array" [
        "fun sumArray(arr, index, total) \x7b",
        "\tif (index >= 10) \x7b",
        "\t\treturn total;",
        "\t\x7d",
        "\treturn sumArray(arr, index + 1, total + arr);",
        "\x7d"]
      "Array sum function"
      "Sum values using recursion",
    item .snippet "array" ["[1, 2, 3, 4, 5]"]
      "Array literal"
      "Create an array with multiple values",
    item .snippet "array-declaration" ["var arr = [1, 2, 3, 4, 5];"]
      "Array variable"
      "Declare an array variable",
    item .snippet "array-access" ["arr[0]"]
      "Array element access"
      "Access array element by index",
    item .snippet "array-modify" ["arr[index] = value;"]
      "Modify array element"
      "Change value at specific index",
    item .snippet "bubble-sort" [
        "var arr = [64, 34, 25, 12, 22];",
        "var n = 5;",
        "var i = 0;",
        "",
        "while (i < n) \x7b",
        "\tvar j = 0;",
        "\twhile (j < n - i - 1) \x7b",
        "\t\tif (arr[j] > arr[j + 1]) \x7b",
        "\t\t\tvar temp = arr[j];",
        "\t\t\tarr[j] = arr[j + 1];",
        "\t\t\tarr[j + 1] = temp;",
        "\t\t\x7d",
        "\t\tj = j + 1;",
        "\t\x7d",
        "\ti = i + 1;",
        "\x7d",
        "write(arr);"]
      "Bubble sort algorithm"
      "Complete bubble sort implementation",
    item .snippet "binary-search" [
        "var sortedArr = [2, 5, 8, 12, 16, 23, 38, 45];",
        "var target = 23;",
        "var left = 0;",
        "var right = 7;",
        "var found = -1;",
        "",
        "while (left <= right) \x7b",
        "\tvar mid = (left + right) / 2;",
        "\tvar midValue = sortedArr[mid];",
        "\t",
        "\tif (midValue == target) \x7b",
        "\t\tfound = mid;",
        "\t\tleft = right + 1;",
        "\t\x7d",
        "\tif (midValue > target) \x7b",
        "\t\tright = mid - 1;",
        "\t\x7d",
        "\tif (midValue < target) \x7b",
        "\t\tleft = mid + 1;",
        "\t\x7d",
        "\x7d",
        "write(found);"]
      "Binary search algorithm"
      "Binary search on sorted array",
    item .snippet "array-loop" [
        "var arr = [1, 2, 3, 4, 5];",
        "var i = 0;",
        "while (i < 5) \x7b",
        "\twrite(arr[i]);",
        "\ti = i + 1;",
        "\x7d"]
      "Loop through array"
      "Iterate through array elements"
  ]

/-- A predefined answer; the code example is given by its lines. -/
def entry (question : String) (keywords : List String) (answer : String)
    (codeExample : List String) : FaqEntry :=
  { question := question.toList
    keywords := keywords.map String.toList
    answer := answer.toList
    codeExample := some (joinLines codeExample) }

/-- The predefined answers. -/
def knowledge : List FaqEntry :=
  [
    entry "How do I declare a variable in AOI?"
      ["variable", "declare", "var", "assignment"]
      "In AOI, you declare variables using the 'var' keyword followed by the variable name and optional assignment."
      [
        "var name = \"Alice\";",
        "var age = 25;",
        "var isStudent = true;"],
    entry "How do I create a function?"
      ["function", "fun", "define", "method"]
      "Functions in AOI are declared using the 'fun' keyword, followed by the function name, parameters in parentheses, and the function body in curly braces."
      [
        "fun greet(name) \x7b",
        "    write(\"Hello, \" + name);",
        "\x7d",
        "",
        "fun add(a, b) \x7b",
        "    return a + b;",
        "\x7d"],
    entry "How do I use if-else statements?"
      ["if", "else", "condition", "conditional"]
      "AOI supports if-else statements for conditional logic. Use 'if' for the condition and 'else' for the alternative."
      [
        "if (age >= 18) \x7b",
        "    write(\"Adult\");",
        "\x7d else \x7b",
        "    write(\"Minor\");",
        "\x7d"],
    entry "How do loops work in AOI?"
      ["loop", "while", "for", "iterate", "repeat"]
      "AOI supports both 'while' and 'for' loops. While loops continue as long as the condition is true, and for loops iterate a specific number of times."
      [
        "// While loop",
        "var i = 0;",
        "while (i < 5) \x7b",
        "    write(i);",
        "    i = i + 1;",
        "\x7d",
        "",
        "// For loop",
        "for (var j = 0; j < 10; j = j + 1) \x7b",
        "    write(j);",
        "\x7d"],
    entry "How do I use arrays in AOI?"
      ["array", "list", "collection", "index", "element", "mutable"]
      "AOI supports mutable arrays that can store multiple values. You can create arrays with square brackets, access elements by index, and modify them."
      [
        "// Create arrays",
        "var numbers = [1, 2, 3, 4, 5];",
        "var names = [\"Alice\", \"Bob\", \"Charlie\"];",
        "",
        "// Access elements",
        "var first = numbers[0];  // 1",
        "var second = names[1];   // \"Bob\"",
        "",
        "// Modify arrays",
        "numbers[0] = 10;",
        "names[2] = \"David\";",
        "write(numbers);  // [10, 2, 3, 4, 5]"],
    entry "How do I implement bubble sort?"
      ["bubble sort", "bubble"]
      "You can implement bubble sort using nested loops and array indexing. It compares adjacent elements and swaps them if they're in the wrong order."
      [
        "var arr = [64, 34, 25, 12, 22];",
        "var n = 5;",
        "var i = 0;",
        "",
        "while (i < n) \x7b",
        "    var j = 0;",
        "    while (j < n - i - 1) \x7b",
        "        if (arr[j] > arr[j + 1]) \x7b",
        "            var temp = arr[j];",
        "            arr[j] = arr[j + 1];",
        "            arr[j + 1] = temp;",
        "        \x7d",
        "        j = j + 1;",
        "    \x7d",
        "    i = i + 1;",
        "\x7d",
        "write(arr);  // [12, 22, 25, 34, 64]"],
    entry "How do I implement insertion sort?"
      ["insertion sort", "insertion"]
      "Insertion sort builds the sorted array one item at a time by inserting each element into its correct position. It's efficient for small arrays."
      [
        "var arr = [64, 34, 25, 12, 22];",
        "var n = 5;",
        "var i = 1;",
        "",
        "while (i < n) \x7b",
        "    var key = arr[i];",
        "    var j = i - 1;",
        "    ",
        "    while (j >= 0 && arr[j] > key) \x7b",
        "        arr[j + 1] = arr[j];",
        "        j = j - 1;",
        "    \x7d",
        "    arr[j + 1] = key;",
        "    i = i + 1;",
        "\x7d",
        "write(arr);  // [12, 22, 25, 34, 64]"],
    entry "How do I print output?"
      ["print", "output", "write", "display", "console"]
      "Use the 'write()' function to display output in AOI."
      [
        "write(\"Hello, World!\");",
        "write(42);",
        "var message = \"AOI is awesome!\";",
        "write(message);"],
    entry "What operators does AOI support?"
      ["operator", "arithmetic", "comparison", "logical", "+", "-", "*", "/"]
      "AOI supports arithmetic operators (+, -, *, /), comparison operators (==, !=, >, <, >=, <=), and logical operators (&&, ||, !)."
      [
        "// Arithmetic",
        "var sum = 5 + 3;",
        "var product = 6 * 7;",
        "",
        "// Comparison",
        "var isEqual = (5 == 5);",
        "var isGreater = (10 > 5);",
        "",
        "// Logical",
        "var and = true && false;",
        "var or = true || false;",
        "var not = !true;"],
    entry "How do I create recursive functions?"
      ["recursion", "recursive", "factorial", "fibonacci"]
      "AOI supports recursion. A function can call itself, but be careful with the recursion limit (max 145)."
      [
        "fun factorial(n) \x7b",
        "    if (n <= 1) \x7b",
        "        return 1;",
        "    \x7d",
        "    return n * factorial(n - 1);",
        "\x7d",
        "",
        "fun fib(n) \x7b",
        "    if (n <= 1) \x7b",
        "        return n;",
        "    \x7d",
        "    return fib(n - 1) + fib(n - 2);",
        "\x7d"],
    entry "What are the limitations of AOI?"
      ["limitation", "limit", "restriction", "maximum", "error"]
      "AOI has a recursion limit of 145 to avoid stack overflow. The scan() function is currently broken and should not be used."
      [
        "// Do NOT use numbers > 145 in recursion",
        "// WRONG: factorial(150) will cause stack overflow",
        "// RIGHT: factorial(10) works fine",
        "",
        "// Do NOT use scan() - it's broken",
        "// Use write() for output instead"],
    entry "How do I comment my code?"
      ["comment", "//", "documentation", "note"]
      "AOI supports single-line comments using '//' at the beginning of the line."
      [
        "// This is a comment",
        "var x = 10;  // This is also a comment",
        "",
        "// Comments help document your code",
        "fun calculate(n) \x7b",
        "    // Perform calculation",
        "    return n * 2;",
        "\x7d"],
    entry "Can I concatenate strings?"
      ["string", "concatenate", "concat", "join", "combine"]
      "Yes! Use the '+' operator to concatenate strings in AOI."
      [
        "var firstName = \"John\";",
        "var lastName = \"Doe\";",
        "var fullName = firstName + \" \" + lastName;",
        "write(fullName);  // Output: John Doe"]
  ]

/-- The catalogs for use without any files. -/
def catalogs : Catalogs :=
  { vocabulary, completions, knowledge }

end Shipped
end TeachingEditor
