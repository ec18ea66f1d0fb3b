import SchemeCheck.Text.Basic
set_option autoImplicit false

namespace SchemeCheck.Catalog

def bundledSyntaxes : List (String × String) :=
  [("ASP", "source.asp"), ("ActionScript", "source.actionscript.2"),
    ("AppleScript", "source.applescript"), ("Batch File", "source.dosbatch"),
    ("BibTeX", "text.bibtex"), ("Bourne Again Shell (bash)", "source.shell.bash"),
    ("C#", "source.cs"), ("C++", "source.c++"), ("C", "source.c"), ("CSS", "source.css"),
    ("Cargo Build Results", "source.build_results"), ("Clojure", "source.clojure"),
    ("D", "source.d"), ("Diff", "source.diff"), ("Erlang", "source.erlang"), ("Go", "source.go"),
    ("Graphviz (DOT)", "source.dot"), ("Groovy", "source.groovy"),
    ("HTML (ASP)", "text.html.asp"), ("HTML (Erlang)", "text.html.erlang.yaws"),
    ("HTML (Rails)", "text.html.ruby"), ("HTML (Tcl)", "text.html.tcl"),
    ("HTML", "text.html.basic"), ("Haskell", "source.haskell"), ("JSON", "source.json"),
    ("Java Properties", "source.java-props"), ("Java Server Page (JSP)", "text.html.jsp"),
    ("Java", "source.java"), ("JavaDoc", "text.html.javadoc"),
    ("JavaScript (Rails)", "source.js.rails"), ("JavaScript", "source.js"),
    ("LaTeX Log", "text.log.latex"), ("LaTeX", "text.tex.latex"), ("Lisp", "source.lisp"),
    ("Literate Haskell", "text.tex.latex.haskell"), ("Lua", "source.lua"),
    ("MATLAB", "source.matlab"), ("Make Output", "source.build_output"),
    ("Makefile", "source.makefile"), ("Markdown", "text.html.markdown"),
    ("MultiMarkdown", "text.html.markdown.multimarkdown"),
    ("NAnt Build File", "source.nant-build"), ("OCaml", "source.ocaml"),
    ("OCamllex", "source.ocamllex"), ("OCamlyacc", "source.ocamlyacc"),
    ("Objective-C++", "source.objc++"), ("Objective-C", "source.objc"),
    ("PHP Source", "source.php"), ("PHP", "embedding.php"), ("Pascal", "source.pascal"),
    ("Perl", "source.perl"), ("Plain Text", "text.plain"), ("Python", "source.python"),
    ("R Console", "source.r-console"), ("R", "source.r"),
    ("Rd (R Documentation)", "text.tex.latex.rd"), ("Regular Expression", "source.regexp"),
    ("Regular Expressions (Javascript)", "source.regexp.js"),
    ("Regular Expressions (Python)", "source.regexp.python"), ("Ruby Haml", "text.haml"),
    ("Ruby on Rails", "source.ruby.rails"), ("Ruby", "source.ruby"), ("Rust", "source.rust"),
    ("SQL (Rails)", "source.sql.ruby"), ("SQL", "source.sql"), ("Scala", "source.scala"),
    ("Shell-Unix-Generic", "source.shell"), ("Tcl", "source.tcl"), ("TeX", "text.tex"),
    ("Textile", "text.html.textile"), ("XML", "text.xml"), ("YAML", "source.yaml"),
    ("camlp4", "source.camlp4.ocaml"),
    ("commands-builtin-shell-bash", "commands.builtin.shell.bash"),
    ("reStructuredText", "text.restructuredtext")]

end SchemeCheck.Catalog
