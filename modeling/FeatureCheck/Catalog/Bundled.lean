import FeatureCheck.Catalog.Entry

/-!
# The bundled catalog

The catalog that is used when neither a remote nor an installed one is at hand.
-/

namespace FeatureCheck.Catalog

set_option autoImplicit false

def bundledEntries : List CatalogEntry := [
  { provides := ["com.ibm.websphere.appserver.eeCompatible-7.0"]
    visibility := "PRIVATE"
    platforms := ["javaee-7.0"] },
  { provides := ["com.ibm.websphere.appserver.eeCompatible-8.0"]
    visibility := "PRIVATE"
    platforms := ["javaee-8.0"] },
  { provides := ["com.ibm.websphere.appserver.eeCompatible-9.0"]
    visibility := "PRIVATE"
    platforms := ["jakartaee-9.1"] },
  { provides := ["com.ibm.websphere.appserver.eeCompatible-10.0"]
    visibility := "PRIVATE"
    platforms := ["jakartaee-10.0"] },
  { provides := ["io.openliberty.mpCompatible-4.0"]
    visibility := "PRIVATE"
    platforms := ["microProfile-4.1"] },
  { provides := ["io.openliberty.mpCompatible-6.0"]
    visibility := "PRIVATE"
    platforms := ["microProfile-6.0"] },
  { description := "Java Servlets 3.1"
    shortName := "servlet-3.1"
    provides := ["com.ibm.websphere.appserver.servlet-3.1"]
    visibility := "PUBLIC"
    platforms := ["javaee-7.0"]
    requires := ["com.ibm.websphere.appserver.eeCompatible-7.0"]
    configElements := ["httpSession", "webContainer"] },
  { description := "Java Servlets 4.0"
    shortName := "servlet-4.0"
    provides := ["com.ibm.websphere.appserver.servlet-4.0"]
    visibility := "PUBLIC"
    platforms := ["javaee-8.0"]
    requires := ["com.ibm.websphere.appserver.eeCompatible-8.0"]
    configElements := ["httpSession", "webContainer"] },
  { description := "Jakarta Servlet 5.0"
    shortName := "servlet-5.0"
    provides := ["com.ibm.websphere.appserver.servlet-5.0"]
    visibility := "PUBLIC"
    platforms := ["jakartaee-9.1"]
    requires := ["com.ibm.websphere.appserver.eeCompatible-9.0"]
    configElements := ["httpSession", "webContainer"] },
  { description := "Jakarta Servlet 6.0"
    shortName := "servlet-6.0"
    provides := ["com.ibm.websphere.appserver.servlet-6.0"]
    visibility := "PUBLIC"
    platforms := ["jakartaee-10.0"]
    requires := ["com.ibm.websphere.appserver.eeCompatible-10.0"]
    configElements := ["httpSession", "webContainer"] },
  { description := "Java RESTful Services 2.0"
    shortName := "jaxrs-2.0"
    provides := ["com.ibm.websphere.appserver.jaxrs-2.0"]
    visibility := "PUBLIC"
    platforms := ["javaee-7.0"]
    requires := ["com.ibm.websphere.appserver.servlet-3.1"] },
  { description := "Java RESTful Services 2.1"
    shortName := "jaxrs-2.1"
    provides := ["com.ibm.websphere.appserver.jaxrs-2.1"]
    visibility := "PUBLIC"
    platforms := ["javaee-8.0"]
    requires := ["com.ibm.websphere.appserver.servlet-4.0"] },
  { description := "Jakarta RESTful Web Services 3.0"
    shortName := "restfulWS-3.0"
    provides := ["io.openliberty.restfulWS-3.0"]
    visibility := "PUBLIC"
    platforms := ["jakartaee-9.1"]
    requires := ["com.ibm.websphere.appserver.servlet-5.0"] },
  { description := "Jakarta RESTful Web Services 3.1"
    shortName := "restfulWS-3.1"
    provides := ["io.openliberty.restfulWS-3.1"]
    visibility := "PUBLIC"
    platforms := ["jakartaee-10.0"]
    requires := ["com.ibm.websphere.appserver.servlet-6.0"] },
  { description := "JavaScript Object Notation Processing 1.1"
    shortName := "jsonp-1.1"
    provides := ["com.ibm.websphere.appserver.jsonp-1.1"]
    visibility := "PUBLIC"
    platforms := ["javaee-8.0"] },
  { description := "Jakarta JSON Processing 2.0"
    shortName := "jsonp-2.0"
    provides := ["io.openliberty.jsonp-2.0"]
    visibility := "PUBLIC"
    platforms := ["jakartaee-9.1"] },
  { description := "Jakarta JSON Processing 2.1"
    shortName := "jsonp-2.1"
    provides := ["io.openliberty.jsonp-2.1"]
    visibility := "PUBLIC"
    platforms := ["jakartaee-10.0", "microProfile-6.0"] },
  { description := "Contexts and Dependency Injection 2.0"
    shortName := "cdi-2.0"
    provides := ["com.ibm.websphere.appserver.cdi-2.0"]
    visibility := "PUBLIC"
    platforms := ["javaee-8.0"] },
  { description := "Jakarta Contexts and Dependency Injection 3.0"
    shortName := "cdi-3.0"
    provides := ["io.openliberty.cdi-3.0"]
    visibility := "PUBLIC"
    platforms := ["jakartaee-9.1"] },
  { description := "Jakarta Contexts and Dependency Injection 4.0"
    shortName := "cdi-4.0"
    provides := ["io.openliberty.cdi-4.0"]
    visibility := "PUBLIC"
    platforms := ["jakartaee-10.0"] },
  { description := "Java EE 8 Web Profile"
    shortName := "webProfile-8.0"
    provides := ["com.ibm.websphere.appserver.webProfile-8.0"]
    visibility := "PUBLIC"
    platforms := ["javaee-8.0"]
    requires := [
      "com.ibm.websphere.appserver.servlet-4.0", "com.ibm.websphere.appserver.jaxrs-2.1",
      "com.ibm.websphere.appserver.cdi-2.0", "com.ibm.websphere.appserver.jsonp-1.1"] },
  { description := "Jakarta EE 10 Web Profile"
    shortName := "webProfile-10.0"
    provides := ["io.openliberty.webProfile-10.0"]
    visibility := "PUBLIC"
    platforms := ["jakartaee-10.0"]
    requires := [
      "com.ibm.websphere.appserver.servlet-6.0", "io.openliberty.restfulWS-3.1",
      "io.openliberty.cdi-4.0", "io.openliberty.jsonp-2.1"] },
  { description := "MicroProfile Health 3.1"
    shortName := "mpHealth-3.1"
    provides := ["io.openliberty.mpHealth-3.1"]
    visibility := "PUBLIC"
    platforms := ["microProfile-4.1"]
    requires := ["io.openliberty.mpCompatible-4.0", "com.ibm.websphere.appserver.cdi-2.0"]
    configElements := ["mpHealth"] },
  { description := "MicroProfile Health 4.0"
    shortName := "mpHealth-4.0"
    provides := ["io.openliberty.mpHealth-4.0"]
    visibility := "PUBLIC"
    platforms := ["microProfile-6.0"]
    requires := ["io.openliberty.mpCompatible-6.0", "io.openliberty.cdi-4.0"]
    configElements := ["mpHealth"] },
  { description := "MicroProfile Metrics 3.0"
    shortName := "mpMetrics-3.0"
    provides := ["io.openliberty.mpMetrics-3.0"]
    visibility := "PUBLIC"
    platforms := ["microProfile-4.1"]
    requires := ["io.openliberty.mpCompatible-4.0"]
    configElements := ["mpMetrics"] },
  { description := "MicroProfile Metrics 5.0"
    shortName := "mpMetrics-5.0"
    provides := ["io.openliberty.mpMetrics-5.0"]
    visibility := "PUBLIC"
    platforms := ["microProfile-6.0"]
    requires := ["io.openliberty.mpCompatible-6.0"]
    configElements := ["mpMetrics"] },
  { description := "Local JMX Connector"
    shortName := "localConnector-1.0"
    provides := ["com.ibm.websphere.appserver.localConnector-1.0"]
    visibility := "PUBLIC" },
  { description := "Secure Socket Layer"
    shortName := "ssl-1.0"
    provides := ["com.ibm.websphere.appserver.ssl-1.0"]
    visibility := "PUBLIC"
    configElements := ["ssl", "keyStore"] },
  { description := "Application Security 4.0"
    shortName := "appSecurity-4.0"
    provides := ["io.openliberty.appSecurity-4.0"]
    visibility := "PUBLIC"
    platforms := ["jakartaee-9.1"]
    requires := ["com.ibm.websphere.appserver.ssl-1.0"]
    configElements := ["basicRegistry"] },
  { description := "Application Security 5.0"
    shortName := "appSecurity-5.0"
    provides := ["io.openliberty.appSecurity-5.0"]
    visibility := "PUBLIC"
    platforms := ["jakartaee-10.0"]
    requires := ["com.ibm.websphere.appserver.ssl-1.0"]
    configElements := ["basicRegistry"] },
  { description := "Servlet"
    shortName := "servlet"
    provides := ["io.openliberty.versionless.servlet"]
    visibility := "PUBLIC"
    tolerated := [⟨"io.openliberty.internal.versionless.servlet-3.1", ["4.0", "5.0", "6.0"]⟩] },
  { description := "Jakarta RESTful Web Services"
    shortName := "restfulWS"
    provides := ["io.openliberty.versionless.restfulWS"]
    visibility := "PUBLIC"
    tolerated := [⟨"io.openliberty.internal.versionless.restfulWS-3.0", ["3.1"]⟩] },
  { description := "JSON Processing"
    shortName := "jsonp"
    provides := ["io.openliberty.versionless.jsonp"]
    visibility := "PUBLIC"
    tolerated := [⟨"io.openliberty.internal.versionless.jsonp-1.1", ["2.0", "2.1"]⟩] },
  { description := "Contexts and Dependency Injection"
    shortName := "cdi"
    provides := ["io.openliberty.versionless.cdi"]
    visibility := "PUBLIC"
    tolerated := [⟨"io.openliberty.internal.versionless.cdi-2.0", ["3.0", "4.0"]⟩] },
  { description := "MicroProfile Health"
    shortName := "mpHealth"
    provides := ["io.openliberty.versionless.mpHealth"]
    visibility := "PUBLIC"
    requires := [
      "io.openliberty.internal.versionless.mpHealth-3.1",
      "io.openliberty.internal.versionless.mpHealth-4.0"] },
  { description := "MicroProfile Metrics"
    shortName := "mpMetrics"
    provides := ["io.openliberty.versionless.mpMetrics"]
    visibility := "PUBLIC"
    requires := [
      "io.openliberty.internal.versionless.mpMetrics-3.0",
      "io.openliberty.internal.versionless.mpMetrics-5.0"] }]

def bundled : List UInt8 :=
  Text.bytesOf (CatalogEntry.publish bundledEntries)

end FeatureCheck.Catalog
