import Vitae.Template.Shell

/-!
# Packaged templates

The templates that are there when no other directory of templates is given: two for the standard layout
and one for the regional layout, and the command definitions that they share.
-/

namespace Vitae.Template.Packaged

/-- The text of a file with the given lines, each with its line feed. -/
def fileText (lines : List String) : String := String.join (lines.map (· ++ "\n"))

/-- The shell of `template01`, which defines the commands itself. -/
def classicShell : String := fileText
  ["% QuillCV template01: single-column professional resume",
   "\\documentclass[a4paper,11pt]\x7barticle\x7d",
   "",
   "\\usepackage[margin=0.7in]\x7bgeometry\x7d",
   "\\usepackage[T1]\x7bfontenc\x7d",
   "\\usepackage[utf8]\x7binputenc\x7d",
   "\\usepackage\x7blmodern\x7d",
   "\\usepackage\x7btitlesec\x7d",
   "\\usepackage\x7benumitem\x7d",
   "\\usepackage\x7bxcolor\x7d",
   "\\usepackage[hidelinks]\x7bhyperref\x7d",
   "\\usepackage\x7betoolbox\x7d",
   "\\usepackage\x7bkeycommand\x7d",
   "\\usepackage\x7bxstring\x7d",
   "",
   "\\pagestyle\x7bempty\x7d",
   "\\setlength\x7b\\parindent\x7d\x7b0pt\x7d",
   "\\setlist[itemize]\x7bleftmargin=1.2em, topsep=2pt\x7d",
   "",
   "\\titleformat\x7b\\section\x7d\x7b\\large\\bfseries\\scshape\x7d\x7b\x7d\x7b0pt\x7d\x7b\x7d[\\titlerule]",
   "\\titlespacing*\x7b\\section\x7d\x7b0pt\x7d\x7b10pt\x7d\x7b6pt\x7d",
   "",
   "\\def \\separator \x7b \\textbf\x7b\\Large\\textbullet\x7d \x7d",
   "",
   "\\newkeycommand\x7b\\introduction\x7d[fullname,email,phone,linkedin,github]\x7b%",
   "    \\begin\x7bcenter\x7d",
   "        \x7b\\Huge\\bfseries \\commandkey\x7bfullname\x7d\x7d \\\\",
   "        \\vspace\x7b0.5em\x7d",
   "        \\ifcommandkey\x7bphone\x7d\x7b\\commandkey\x7bphone\x7d\x7d\x7b\x7d",
   "        \\ifcommandkey\x7bemail\x7d\x7b\\ifcommandkey\x7bphone\x7d\x7b \\separator \x7d\x7b\x7d \\href\x7bmailto:\\commandkey\x7bemail\x7d\x7d\x7b\\commandkey\x7bemail\x7d\x7d\x7d\x7b\x7d",
   "        \\ifcommandkey\x7blinkedin\x7d\x7b\\ifcommandkey\x7bemail\x7d\x7b \\separator \x7d\x7b\\ifcommandkey\x7bphone\x7d\x7b \\separator \x7d\x7b\x7d\x7d \\href\x7bhttps://\\commandkey\x7blinkedin\x7d\x7d\x7b\\commandkey\x7blinkedin\x7d\x7d\x7d\x7b\x7d",
   "        \\ifcommandkey\x7bgithub\x7d\x7b\\ifcommandkey\x7blinkedin\x7d\x7b \\separator \x7d\x7b\\ifcommandkey\x7bemail\x7d\x7b \\separator \x7d\x7b\\ifcommandkey\x7bphone\x7d\x7b \\separator \x7d\x7b\x7d\x7d\x7d\x7d \\href\x7bhttps://\\commandkey\x7bgithub\x7d\x7d\x7b\\commandkey\x7bgithub\x7d\x7d\x7d\x7b\x7d",
   "    \\end\x7bcenter\x7d",
   "\x7d",
   "",
   "\\newcommand\x7b\\summary\x7d[1]\x7b\\section\x7bSummary\x7d #1\x7d",
   "",
   "\\newenvironment\x7beducationSection\x7d[1]\x7b\\section\x7b#1\x7d\x7d\x7b\x7d",
   "\\newenvironment\x7bskillsSection\x7d[1]\x7b\\section\x7b#1\x7d\x7d\x7b\x7d",
   "\\newenvironment\x7bexperienceSection\x7d[1]\x7b\\section\x7b#1\x7d\x7d\x7b\x7d",
   "",
   "\\newkeycommand\x7b\\educationItem\x7d[university,college,program,graduation,grade,coursework]\x7b%",
   "    \x7b\\bfseries \\commandkey\x7bprogram\x7d\x7d \\hfill \\commandkey\x7bgraduation\x7d \\\\",
   "    \\ifcommandkey\x7buniversity\x7d\x7b\\commandkey\x7buniversity\x7d \\ifcommandkey\x7bgrade\x7d\x7b\\hfill \\commandkey\x7bgrade\x7d\x7d\x7b\x7d \\\\ \x7d\x7b\x7d",
   "    \\ifcommandkey\x7bcollege\x7d\x7b\\commandkey\x7bcollege\x7d \\\\ \x7d\x7b\x7d",
   "    \\ifcommandkey\x7bcoursework\x7d\x7b\x7b\\small \\commandkey\x7bcoursework\x7d\x7d \\\\ \x7d\x7b\x7d",
   "    \\vspace\x7b0.5em\x7d",
   "\x7d",
   "",
   "\\newkeycommand\x7b\\skillItem\x7d[category,skills]\x7b%",
   "    \x7b\\bfseries \\commandkey\x7bcategory\x7d:\x7d \\commandkey\x7bskills\x7d",
   "\x7d",
   "",
   "\\newkeycommand\x7b\\experienceItem\x7d[company,position,location,duration]\x7b%",
   "    \x7b\\bfseries \\commandkey\x7bcompany\x7d\x7d \\ifcommandkey\x7blocation\x7d\x7b, \\commandkey\x7blocation\x7d\x7d\x7b\x7d \\hfill \\commandkey\x7bduration\x7d \\\\",
   "    \x7b\\itshape \\commandkey\x7bposition\x7d\x7d%",
   "\x7d",
   "",
   "\\newkeycommand\x7b\\projectItem\x7d[title,duration,keyHighlight]\x7b%",
   "    \x7b\\bfseries \\commandkey\x7btitle\x7d\x7d \\hfill \\commandkey\x7bduration\x7d \\\\",
   "    \\commandkey\x7bkeyHighlight\x7d%",
   "\x7d",
   "",
   "\\begin\x7bdocument\x7d",
   "",
   "\x7b\x7bTEMPLATE_CONTENT\x7d\x7d",
   "",
   "\\end\x7bdocument\x7d"]

/-- The description of `template01`. -/
def classicConfig : String := fileText
  ["\x7b",
   "  \"templateName\": \"Classic Professional\",",
   "  \"description\": \"Single-column resume with ruled section headings.\",",
   "  \"category\": \"professional\",",
   "  \"enabled\": true",
   "\x7d"]

/-- The shell of `template02`. -/
def compactShell : String := fileText
  ["% QuillCV template02: compact modern resume",
   "% Keyed commands are injected after \\documentclass at compile time.",
   "\\documentclass[letterpaper,10pt]\x7barticle\x7d",
   "",
   "\\usepackage[margin=0.6in]\x7bgeometry\x7d",
   "\\usepackage[T1]\x7bfontenc\x7d",
   "\\usepackage[utf8]\x7binputenc\x7d",
   "\\usepackage[default]\x7bsourcesanspro\x7d",
   "\\usepackage\x7btitlesec\x7d",
   "\\usepackage\x7benumitem\x7d",
   "\\usepackage\x7bxcolor\x7d",
   "\\usepackage[hidelinks]\x7bhyperref\x7d",
   "",
   "\\definecolor\x7baccent\x7d\x7bHTML\x7d\x7b1F4E79\x7d",
   "",
   "\\pagestyle\x7bempty\x7d",
   "\\setlength\x7b\\parindent\x7d\x7b0pt\x7d",
   "\\setlist[itemize]\x7bleftmargin=1em, topsep=1pt\x7d",
   "",
   "\\titleformat\x7b\\section\x7d\x7b\\color\x7baccent\x7d\\large\\bfseries\x7d\x7b\x7d\x7b0pt\x7d\x7b\x7d[\x7b\\color\x7baccent\x7d\\titlerule\x7d]",
   "\\titlespacing*\x7b\\section\x7d\x7b0pt\x7d\x7b8pt\x7d\x7b4pt\x7d",
   "",
   "\\begin\x7bdocument\x7d",
   "",
   "\x7b\x7bTEMPLATE_CONTENT\x7d\x7d",
   "",
   "\\end\x7bdocument\x7d"]

/-- The description of `template02`. -/
def compactConfig : String := fileText
  ["\x7b",
   "  \"templateName\": \"Compact Modern\",",
   "  \"description\": \"Dense single-column layout with accent-coloured headings.\",",
   "  \"category\": \"modern\",",
   "  \"enabled\": true",
   "\x7d"]

/-- The shell of `basic_sa`, for the regional layout. -/
def regionalShell : String := fileText
  ["% QuillCV basic_sa: South African style CV",
   "\\documentclass[a4paper,11pt]\x7barticle\x7d",
   "",
   "\\usepackage[margin=0.75in]\x7bgeometry\x7d",
   "\\usepackage[T1]\x7bfontenc\x7d",
   "\\usepackage[utf8]\x7binputenc\x7d",
   "\\usepackage\x7btitlesec\x7d",
   "\\usepackage\x7benumitem\x7d",
   "\\usepackage\x7bxcolor\x7d",
   "\\usepackage[hidelinks]\x7bhyperref\x7d",
   "",
   "\\pagestyle\x7bempty\x7d",
   "\\setlength\x7b\\parindent\x7d\x7b0pt\x7d",
   "\\setlist[itemize]\x7bleftmargin=1.2em, topsep=0pt\x7d",
   "",
   "\\titleformat\x7b\\section\x7d\x7b\\vspace\x7b-4pt\x7d\\scshape\\raggedright\\large\x7d\x7b\x7d\x7b0em\x7d\x7b\x7d[\\titlerule \\vspace\x7b-5pt\x7d]",
   "",
   "\\newcommand\x7b\\resumeItemWithoutTitle\x7d[1]\x7b\\item\\small\x7b#1 \\vspace\x7b-2pt\x7d\x7d\x7d",
   "",
   "\\newcommand\x7b\\resumeSubheading\x7d[4]\x7b",
   "  \\vspace\x7b-1pt\x7d\\item",
   "    \\begin\x7btabular*\x7d\x7b0.97\\textwidth\x7d[t]\x7bl@\x7b\\extracolsep\x7b\\fill\x7d\x7dr\x7d",
   "      \\textbf\x7b#1\x7d & #2 \\\\",
   "      \\textit\x7b\\small#3\x7d & \\textit\x7b\\small #4\x7d \\\\",
   "    \\end\x7btabular*\x7d\\vspace\x7b-5pt\x7d",
   "\x7d",
   "",
   "\\newcommand\x7b\\resumeSubItem\x7d[2]\x7b\\item\\small\x7b\\textbf\x7b#1\x7d\x7b: #2 \\vspace\x7b-2pt\x7d\x7d\x7d\x7d",
   "",
   "\\newcommand\x7b\\resumeSubHeadingListStart\x7d\x7b\\begin\x7bitemize\x7d[leftmargin=*, label=\x7b\x7d]\x7d",
   "\\newcommand\x7b\\resumeSubHeadingListEnd\x7d\x7b\\end\x7bitemize\x7d\x7d",
   "\\newcommand\x7b\\resumeItemListStart\x7d\x7b\\begin\x7bitemize\x7d\x7d",
   "\\newcommand\x7b\\resumeItemListEnd\x7d\x7b\\end\x7bitemize\x7d\\vspace\x7b-5pt\x7d\x7d",
   "",
   "\\begin\x7bdocument\x7d",
   "",
   "\x7b\x7bTEMPLATE_CONTENT\x7d\x7d",
   "",
   "\\end\x7bdocument\x7d"]

/-- The description of `basic_sa`. -/
def regionalConfig : String := fileText
  ["\x7b",
   "  \"templateName\": \"South African CV\",",
   "  \"description\": \"Regional CV with ID number, personal information and declaration.\",",
   "  \"category\": \"regional\",",
   "  \"enabled\": true",
   "\x7d"]

/-- The definitions of the keyed commands; a shell that defines them already is not affected. -/
def commandDefinitions : String := fileText
  ["% ------------ QuillCV Keyed Commands ------------",
   "\\ifx\\introduction\\undefined",
   "  \\usepackage\x7betoolbox\x7d",
   "  \\usepackage\x7bkeycommand\x7d",
   "  \\usepackage\x7bxstring\x7d",
   "",
   "  \\def \\separator \x7b \\textbf\x7b\\Large\\textbullet\x7d \x7d",
   "",
   "  \\newkeycommand\x7b\\introduction\x7d[fullname,email,phone,linkedin,github]\x7b%",
   "      \\begin\x7bcenter\x7d",
   "          \x7b\\Huge\\bfseries \\commandkey\x7bfullname\x7d\x7d \\\\",
   "          \\vspace\x7b0.5em\x7d",
   "          \\ifcommandkey\x7bphone\x7d\x7b\\commandkey\x7bphone\x7d\x7d\x7b\x7d",
   "          \\ifcommandkey\x7bemail\x7d\x7b\\ifcommandkey\x7bphone\x7d\x7b \\separator \x7d\x7b\x7d \\href\x7bmailto:\\commandkey\x7bemail\x7d\x7d\x7b\\commandkey\x7bemail\x7d\x7d\x7d\x7b\x7d",
   "          \\ifcommandkey\x7blinkedin\x7d\x7b\\ifcommandkey\x7bemail\x7d\x7b \\separator \x7d\x7b\\ifcommandkey\x7bphone\x7d\x7b \\separator \x7d\x7b\x7d\x7d \\href\x7bhttps://\\commandkey\x7blinkedin\x7d\x7d\x7b\\commandkey\x7blinkedin\x7d\x7d\x7d\x7b\x7d",
   "          \\ifcommandkey\x7bgithub\x7d\x7b\\ifcommandkey\x7blinkedin\x7d\x7b \\separator \x7d\x7b\\ifcommandkey\x7bemail\x7d\x7b \\separator \x7d\x7b\\ifcommandkey\x7bphone\x7d\x7b \\separator \x7d\x7b\x7d\x7d\x7d\x7d \\href\x7bhttps://\\commandkey\x7bgithub\x7d\x7d\x7b\\commandkey\x7bgithub\x7d\x7d\x7d\x7b\x7d",
   "      \\end\x7bcenter\x7d",
   "  \x7d",
   "",
   "  \\providecommand\x7b\\summary\x7d[1]\x7b \\section\x7bSummary\x7d #1 \x7d",
   "",
   "  \\ifx\\educationSection\\undefined",
   "    \\newenvironment\x7beducationSection\x7d[1]\x7b \\section\x7b#1\x7d \x7d\x7b\x7d",
   "  \\fi",
   "",
   "  \\newkeycommand\x7b\\educationItem\x7d[university,college,program,graduation,grade,coursework]\x7b%",
   "      \x7b\\bfseries \\commandkey\x7bprogram\x7d\x7d \\hfill \\commandkey\x7bgraduation\x7d \\\\",
   "      \\ifcommandkey\x7buniversity\x7d\x7b\\commandkey\x7buniversity\x7d \\ifcommandkey\x7bgrade\x7d\x7b\\hfill \\commandkey\x7bgrade\x7d\x7d\x7b\x7d \\\\ \x7d\x7b\x7d",
   "      \\ifcommandkey\x7bcollege\x7d\x7b\\commandkey\x7bcollege\x7d \\\\ \x7d\x7b\x7d",
   "      \\ifcommandkey\x7bcoursework\x7d\x7b\x7b\\small \\commandkey\x7bcoursework\x7d\x7d \\\\ \x7d\x7b\x7d",
   "      \\vspace\x7b0.5em\x7d",
   "  \x7d",
   "",
   "  \\ifx\\skillsSection\\undefined",
   "    \\newenvironment\x7bskillsSection\x7d[1]\x7b \\section\x7b#1\x7d \x7d\x7b\x7d",
   "  \\fi",
   "",
   "  \\newkeycommand\x7b\\skillItem\x7d[category,skills]\x7b%",
   "      \x7b\\bfseries \\commandkey\x7bcategory\x7d:\x7d \\commandkey\x7bskills\x7d",
   "  \x7d",
   "",
   "  \\ifx\\experienceSection\\undefined",
   "    \\newenvironment\x7bexperienceSection\x7d[1]\x7b \\section\x7b#1\x7d \x7d\x7b\x7d",
   "  \\fi",
   "",
   "  \\newkeycommand\x7b\\experienceItem\x7d[company,position,location,duration]\x7b%",
   "      \x7b\\bfseries \\commandkey\x7bcompany\x7d\x7d \\ifcommandkey\x7blocation\x7d\x7b, \\commandkey\x7blocation\x7d\x7d\x7b\x7d \\hfill \\commandkey\x7bduration\x7d \\\\",
   "      \x7b\\itshape \\commandkey\x7bposition\x7d\x7d%",
   "  \x7d",
   "",
   "  \\newkeycommand\x7b\\projectItem\x7d[title,duration,keyHighlight]\x7b%",
   "      \x7b\\bfseries \\commandkey\x7btitle\x7d\x7d \\hfill \\commandkey\x7bduration\x7d \\\\",
   "      \\commandkey\x7bkeyHighlight\x7d%",
   "  \x7d",
   "\\fi",
   "% ------------------------------------------------"]

/-- The directory of a template with its shell and its description. -/
def templateDirectory (id shell config : String) : String × Node :=
  (id, .dir [(id ++ shellEnding, .file shell.toUTF8), (id ++ configEnding, .file config.toUTF8)])

/-- The directory of the packaged templates. -/
def directory : Node :=
  .dir
    [templateDirectory "basic_sa" regionalShell regionalConfig,
     ("structure", .dir [("command_definitions.tex", .file commandDefinitions.toUTF8)]),
     templateDirectory "template01" classicShell classicConfig,
     templateDirectory "template02" compactShell compactConfig]

end Vitae.Template.Packaged
