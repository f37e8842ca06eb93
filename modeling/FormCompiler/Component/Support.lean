import FormCompiler.Component.Markup

/-! Components that a generated component declares itself: the password input and the preview of
a chosen file. -/

namespace FormCompiler

open Markup

structure Support where
  remarks : List String
  icons : List Widget
  widget : Widget
  params : String
  body : List Markup

namespace Support

def bound (s : Support) : List Widget := s.icons ++ [s.widget]

def markup (s : Support) : List Markup :=
  [.blank] ++ s.remarks.map .line ++
    [.line (importWidgets s.icons "'lucide-react'"),
      .blank,
      block ("function " ++ s.widget.name ++ "(" ++ s.params ++ ")") s.body "",
      .blank]

def passwordInput : Support where
  remarks := []
  icons := [.eye, .eyeOff]
  widget := .passwordInput
  params := braced " className, ...props "
  body :=
    [.line "const [showPassword, setShowPassword] = useState(false)",
      .blank,
      group "return"
        [.element (.html "div") [literal "className" "relative"]
          [.tallVoid Widget.input
            [.line (expression "type" "showPassword ? \"text\" : \"password\""),
              .line (expression "className" ("`pr-10 $" ++ braced "className || \"\"" ++ "`")),
              .line (spread "props")],
            .tallElement Widget.button
              [.line (literal "type" "button"),
                .line (literal "variant" "ghost"),
                .line (literal "size" "sm"),
                .line (literal "className"
                  "absolute right-0 top-0 h-full px-3 py-2 hover:bg-transparent"),
                .line (expression "onClick" "() => setShowPassword(!showPassword)"),
                .line (expression "tabIndex" "-1")]
              [choice "showPassword" [.void Widget.eyeOff icon] [.void Widget.eye icon],
                .leaf (.html "span") [literal "className" "sr-only"]
                  (braced "showPassword ? \"Hide password\" : \"Show password\"")]]]
        ""]
where
  icon : List String :=
    [literal "className" "h-4 w-4 text-muted-foreground", literal "aria-hidden" "true"]

/-- What is shown of a file: an image, or its name and size. -/
def filePreview : Support where
  remarks := ["// File preview component"]
  icons := [.cross]
  widget := .filePreview
  params := braced " file, onRemove, className = \"\" "
  body :=
    [.line "const [preview, setPreview] = useState(null)",
      .line "const [fileType, setFileType] = useState(null)",
      .blank,
      block "useEffect(() =>" load ", [file])",
      .blank,
      .line "if (!file) return null",
      .blank,
      block "const formatFileSize = (bytes) =>"
        [.line "if (bytes < 1024) return bytes + \" bytes\"",
          .line "else if (bytes < 1048576) return (bytes / 1024).toFixed(1) + \" KB\"",
          .line "else return (bytes / 1048576).toFixed(1) + \" MB\""]
        "",
      .blank,
      group "return"
        [.element (.html "div") [expression "className" ("`mt-2 $" ++ braced "className" ++ "`")]
          [choice "fileType === \"image\" && preview" [image] [details]]]
        ""]
where
  load : List Markup :=
    [block "if (!file)" [.line "setPreview(null)", .line "setFileType(null)", .line "return"] "",
      .blank,
      sections
        [("if (file.type.startsWith(\"image/\")) \x7b",
            [.line "const reader = new FileReader()",
              block "reader.onloadend = () =>"
                [.line "setPreview(reader.result)", .line "setFileType(\"image\")"] "",
              .line "reader.readAsDataURL(file)"]),
          ("\x7d else \x7b", [.line "setFileType(\"other\")"])]
        "\x7d",
      .blank,
      block "return () =>"
        [block "if (preview && fileType === \"image\")" [.line "URL.revokeObjectURL(preview)"] ""]
        ""]
  removeButton (variant place : String) : Markup :=
    guarded "onRemove"
      [.tallElement Widget.button
        [.line (literal "type" "button"),
          .line (literal "variant" variant),
          .line (literal "size" "icon"),
          .line (literal "className" place),
          .line (expression "onClick" "onRemove")]
        [.void Widget.cross [literal "className" "h-4 w-4"]]]
  image : Markup :=
    .element (.html "div") [literal "className" "relative"]
      [.tallVoid (.html "img")
        [.line (expression "src" "preview || \"/placeholder.svg\""),
          .line (literal "alt" "Preview"),
          .line (literal "className" "max-h-48 max-w-full rounded-md object-contain border p-1")],
        removeButton "destructive" "absolute top-2 right-2 h-6 w-6 rounded-full"]
  details : Markup :=
    .element (.html "div")
      [literal "className" "flex items-center gap-2 p-3 border rounded-md bg-muted/30"]
      [.element (.html "div") [literal "className" "flex-1 truncate"]
        [.leaf (.html "p") [literal "className" "text-sm font-medium truncate"]
            (braced "file.name"),
          .leaf (.html "p") [literal "className" "text-xs text-muted-foreground"]
            (braced "formatFileSize(file.size)")],
        removeButton "ghost" "h-6 w-6 rounded-full hover:bg-destructive/10 hover:text-destructive"]

end Support

end FormCompiler
